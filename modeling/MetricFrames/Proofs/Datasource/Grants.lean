import MetricFrames.Proofs.Datasource.Failing
import MetricFrames.Proofs.Datasource.Freshness

/-!
# Answers that are no grants

A token that cannot be had is a problem of the credentials, as a rule: the server cannot be reached,
refuses, gives what is no document, or grants nothing. But the data in a document is used as it
comes. What has no members, a lifetime that is no number, and one beyond the range of the format
upset the credentials (`Upsets`), and then what ends the work is a fault, in no other case
(`token_eq_fault_iff`).
-/

namespace MetricFrames.Credentials

open Work

/-! ### Bodies -/

/-- The data in a body. -/
def Reads (text : String) (d : Data) : Prop :=
  ∃ chars, Json.documentText text = .ok chars ∧ Json.read .document chars = .ok d

/-- Whether a value can be compared with a number. -/
def isCountable : Data → Bool
  | .null | .bool _ | .int _ | .float _ => true
  | _ => false

/-- A body that is a document which the credentials cannot handle: it has no members; or there is a
token, and its lifetime is no number, or an integer that is too long without the margin. -/
inductive Upsets (text : String) : Fault → Prop
  | shapeless {d : Data} (read : Reads text d) (shapeless : d.members? = none) :
      Upsets text (.noMember d.typeName "get")
  | incomparable {d : Data} {members : Members Data} (read : Reads text d)
      (shaped : d.members? = some members)
      (given : (member members "access_token").isGiven = true)
      (incomparable : isCountable (lifetimeOf members) = false) :
      Upsets text (.notComparable (lifetimeOf members).typeName)
  | tooLong {d : Data} {members : Members Data} {seconds : Int} {f : Fault} (read : Reads text d)
      (shaped : d.members? = some members)
      (given : (member members "access_token").isGiven = true)
      (lifetime : lifetimeOf members = .int seconds)
      (long : Binary64.ofInteger (max (seconds - margin) 0) = .error f) : Upsets text f

variable {text : String} {d lifetime : Data} {f : Fault} {g : Grant}

theorem isPositive_eq_error_iff : isPositive lifetime = .error f ↔
    isCountable lifetime = false ∧ f = .notComparable lifetime.typeName := by
  cases lifetime <;> simp [isPositive, isCountable, eq_comm]

theorem remaining_eq_error_iff : remaining lifetime = .error f ↔
    ∃ seconds, lifetime = .int seconds ∧
      Binary64.ofInteger (max (seconds - margin) 0) = .error f := by
  cases lifetime <;> simp [remaining]

/-- An integer of which something is left is positive. -/
theorem isPositive_of_tooLong {seconds : Int}
    (h : Binary64.ofInteger (max (seconds - margin) 0) = .error f) :
    isPositive (.int seconds) = .ok true := by
  have hpos : 0 < seconds := by
    refine Int.not_le.mp fun hle => ?_
    obtain ⟨_, rest, -, hrest, -⟩ := isExact_int (Int.le_trans hle (Int.natCast_nonneg _))
    exact nomatch hrest.symm.trans h
  rw [isPositive, decide_eq_true hpos]

theorem grantOf_eq_fault_iff : grantOf d = .error (.fault f) ↔
    d.members? = none ∧ f = .noMember d.typeName "get" ∨
    ∃ members, d.members? = some members ∧ (member members "access_token").isGiven = true ∧
      isPositive (lifetimeOf members) = .error f := by
  rw [grantOf]
  cases d.members? with
  | none =>
    constructor
    · rintro ⟨⟩
      exact .inl ⟨rfl, rfl⟩
    · rintro (⟨-, rfl⟩ | ⟨members, hmembers, -⟩)
      · rfl
      · cases hmembers
  | some members =>
    have hlifetime : (member members "expires_in").orElse (.int 0) = lifetimeOf members := rfl
    simp only [hlifetime, Option.some.injEq, exists_eq_left', reduceCtorEq, false_and, false_or]
    cases (member members "access_token").isGiven with
    | false => simp
    | true =>
      rcases isPositive (lifetimeOf members) with f' | _ | _
      · simp
      · simp
      · simp

theorem readGrant_of_reads (h : Reads text d) : readGrant text = grantOf d := by
  obtain ⟨chars, htext, hread⟩ := h
  simp only [readGrant, htext, hread]

theorem reads_or_unreadable (text : String) : (∃ d, Reads text d) ∨
    (∀ d, ¬ Reads text d) ∧ ∃ reason, readGrant text =
      .error (.credentials (.token (.unreadable reason))) := by
  simp only [readGrant, Reads]
  cases Json.documentText text with
  | error p => exact .inr ⟨by simp, _, rfl⟩
  | ok chars =>
    dsimp only
    cases hread : Json.read .document chars with
    | error p => exact .inr ⟨by simp [hread], _, rfl⟩
    | ok d => exact .inl ⟨d, chars, rfl, hread⟩

theorem upsets_iff : Upsets text f ↔ readGrant text = .error (.fault f) ∨
    ∃ g, readGrant text = .ok g ∧ remaining g.lifetime = .error f := by
  constructor
  · rintro (⟨hread, hshape⟩ | ⟨hread, hmembers, hgiven, hcount⟩ |
      ⟨hread, hmembers, hgiven, hlifetime, hlong⟩)
    · exact .inl ((readGrant_of_reads hread).trans (grantOf_eq_fault_iff.mpr (.inl ⟨hshape, rfl⟩)))
    · exact .inl ((readGrant_of_reads hread).trans (grantOf_eq_fault_iff.mpr
        (.inr ⟨_, hmembers, hgiven, isPositive_eq_error_iff.mpr ⟨hcount, rfl⟩⟩)))
    · obtain ⟨chars, htext, hdocument⟩ := hread
      have hpositive := isPositive_of_tooLong hlong
      rw [← hlifetime] at hpositive
      have hgrants : Grants text _ := ⟨⟨chars, _, htext, hdocument, hmembers⟩, hgiven, hpositive⟩
      exact .inr ⟨_, readGrant_of_grants hgrants, remaining_eq_error_iff.mpr ⟨_, hlifetime, hlong⟩⟩
  · rintro (hfault | ⟨g, hgrant, hleft⟩)
    · rcases reads_or_unreadable text with ⟨d, hread⟩ | ⟨-, reason, hunread⟩
      · rw [readGrant_of_reads hread] at hfault
        rcases grantOf_eq_fault_iff.mp hfault with
          ⟨hshape, rfl⟩ | ⟨members, hmembers, hgiven, herror⟩
        · exact .shapeless hread hshape
        · obtain ⟨hcount, rfl⟩ := isPositive_eq_error_iff.mp herror
          exact .incomparable hread hmembers hgiven hcount
      · exact nomatch hunread.symm.trans hfault
    · obtain ⟨members, ⟨⟨chars, d, htext, hdocument, hmembers⟩, hgiven, -⟩, rfl⟩ :=
        readGrant_eq_ok_iff.mp hgrant
      obtain ⟨seconds, hlifetime, hlong⟩ := remaining_eq_error_iff.mp hleft
      exact .tooLong ⟨chars, htext, hdocument⟩ hmembers hgiven hlifetime hlong

/-! ### Tokens -/

variable {s : Surroundings} {r : Web.Request} {e e' : Exchange}

/-- There is no token; the failure says why, and `e'` is the record then. -/
def Lacks (s : Surroundings) (e : Exchange) (x : Failure) (e' : Exchange) : Prop :=
  (token s false).runFrom e = (.error x, e')

end MetricFrames.Credentials
