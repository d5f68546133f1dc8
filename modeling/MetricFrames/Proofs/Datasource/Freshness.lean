import Mathlib.Data.List.Induction
import MetricFrames.Proofs.Binary64.Rounding
import MetricFrames.Proofs.Datasource.Requests

/-!
# Fresh tokens

Calls for a token, one after another, keep the token of the last of them that got one from the
metadata server (`cached_afterAll`). It is used again only while it is valid with a minute to spare,
and a call that fails leaves it as it is (`run_fresh`). Lifetimes are taken as exact numbers here;
all lifetimes of at most `2 ^ 53` seconds are (`isExact_of_le`).
-/

namespace MetricFrames.Credentials

open Work

-- Powers of naturals are those of the core library, whatever else is in scope.
attribute [local instance (high)] instPowNat

/-! ### What is left of a lifetime -/

/-- A number, but not less than nothing. -/
def raised (x : Binary64) : Binary64 := if x.lt (.zero false) then .zero false else x

/-- For how long a token is used, by its lifetime. -/
def remaining : Data → Except Fault Binary64
  | .float x => .ok (raised (x.sub (.ofInt margin)))
  | .int i => Binary64.ofInteger (max (i - margin) 0)
  | _ => .ok (.zero false)

theorem expiry_eq (now : Binary64) (d : Data) : expiry now d = (remaining d).map now.add := by
  cases d <;> rfl

/-- The whole of a lifetime, in units, less the margin, but not less than nothing. -/
def unitsLeft (total : Int) : Int := max (total - margin * Binary64.one) 0

/-- What is left of a lifetime is computed without rounding. -/
def IsExact (lifetime : Data) : Prop :=
  ∃ total rest, lifetime.units? = some total ∧ remaining lifetime = .ok rest ∧
    rest.units? = some (unitsLeft total)

variable {d : Data} {total : Int}

theorem units_pos_of_isPositive (h : isPositive d = .ok true) (hu : d.units? = some total) :
    0 < total := by
  have hone : 0 < Binary64.one := Binary64.one_pos
  cases d with
  | bool b =>
    obtain rfl : b = true := Except.ok.inj h
    obtain rfl := Option.some.inj hu
    exact Int.natCast_pos.mpr hone
  | int i =>
    have hi : 0 < i := of_decide_eq_true (Except.ok.inj h)
    obtain rfl := Option.some.inj hu
    exact Int.mul_pos hi (by omega)
  | float x =>
    cases x with
    | finite negative units fits =>
      obtain rfl := Option.some.inj hu
      have hle : ((Binary64.finite negative units fits).le (.zero false)) = false := by
        simpa [isPositive] using h
      simp only [Binary64.le, Binary64.lt, Binary64.same, Binary64.zero, Bool.or_eq_false_iff,
        decide_eq_false_iff_not, beq_eq_false_iff_ne] at hle
      have hzero : Binary64.signed false 0 = 0 := rfl
      omega
    | nan => cases hu
    | infinite negative => cases hu
  | _ => cases h

theorem units?_raised_of_negative (n : Nat) :
    (raised (Binary64.ofUnits true n 1)).units? = some 0 := by
  rw [Binary64.ofUnits, dif_pos Nat.one_pos]
  split
  · rw [raised]
    split
    · rfl
    · next hlt =>
      simp only [Binary64.lt, Binary64.zero, Binary64.signed, decide_eq_true_eq, if_true,
        Bool.false_eq_true, if_false] at hlt
      simp only [Binary64.units?, Binary64.signed, if_true]
      congr 1
      omega
  · rfl

theorem raised_of_nonnegative (u : Nat) (fits : Binary64.Fits u) :
    raised (.finite false u fits) = .finite false u fits := by
  rw [raised, if_neg]
  simp [Binary64.lt, Binary64.zero, Binary64.signed]

/-- A number of units less the margin, which is rounded as every sum is. -/
theorem sub_margin (u : Nat) (fits : Binary64.Fits u) :
    (Binary64.finite false u fits).sub (.ofInt margin) =
      if (u : Int) - (60 * Binary64.one : Nat) = 0 then Binary64.zero false
      else Binary64.ofUnits ((u : Int) - (60 * Binary64.one : Nat) < 0)
        ((u : Int) - (60 * Binary64.one : Nat)).natAbs 1 := by
  have hmargin : Binary64.ofInt margin =
      .finite false (60 * Binary64.one) (Binary64.fits_mul_one (by decide)) :=
    Binary64.ofInt_natCast (n := 60) (by decide)
  have hsum : Binary64.signed false u + Binary64.signed true (60 * Binary64.one) =
      (u : Int) - (60 * Binary64.one : Nat) := by
    simp only [Binary64.signed, Bool.false_eq_true, if_false, if_true]
    omega
  simp only [Binary64.sub, hmargin, Binary64.neg, Binary64.add, Bool.not_false, hsum]
  rfl

theorem units?_raised_sub_margin {u : Nat} (fits : Binary64.Fits u)
    (hu : u ≤ 2 ^ (53 : Nat) * Binary64.one) :
    (raised ((Binary64.finite false u fits).sub (.ofInt margin))).units? = some (unitsLeft u) := by
  have hleft : unitsLeft u = max ((u : Int) - (60 * Binary64.one : Nat)) 0 := by
    rw [unitsLeft, margin, Int.natCast_mul, Int.cast_ofNat_Int]
  rw [sub_margin, hleft]
  rcases Int.lt_trichotomy ((u : Int) - (60 * Binary64.one : Nat)) 0 with hneg | hzero | hmore
  · rw [if_neg hneg.ne, decide_eq_true hneg, Int.max_eq_right hneg.le]
    exact units?_raised_of_negative _
  · rw [if_pos hzero, hzero, Int.max_self]
    exact congrArg Binary64.units? (raised_of_nonnegative 0 _)
  · have hnat : ((u : Int) - (60 * Binary64.one : Nat)).natAbs = u - 60 * Binary64.one := by omega
    have hcast : ((u - 60 * Binary64.one : Nat) : Int) = u - (60 * Binary64.one : Nat) := by omega
    have hfits : Binary64.Fits (u - 60 * Binary64.one) := by
      rw [Binary64.one] at hu ⊢
      exact fits.sub (Nat.succ_pos _) hu
    rw [if_neg hmore.ne', decide_eq_false hmore.not_gt, hnat, Binary64.ofUnits_of_fits _ hfits,
      raised_of_nonnegative, Int.max_eq_left hmore.le]
    exact congrArg some hcast

theorem isExact_float {x : Binary64} (h : x.units? = some total) (hpos : 0 < total)
    (hle : total ≤ (2 ^ (53 : Nat) * Binary64.one : Nat)) : IsExact (.float x) := by
  cases x with
  | nan => cases h
  | infinite negative => cases h
  | finite negative u fits =>
    obtain rfl : Binary64.signed negative u = total := Option.some.inj h
    cases negative with
    | true =>
      simp only [Binary64.signed, if_true] at hpos
      omega
    | false =>
      have hu : u ≤ 2 ^ (53 : Nat) * Binary64.one := Int.ofNat_le.mp hle
      exact ⟨u, _, rfl, rfl, units?_raised_sub_margin fits hu⟩

theorem isExact_int {i : Int} (hle : i ≤ (2 ^ (53 : Nat) : Nat)) : IsExact (.int i) := by
  obtain ⟨n, hn⟩ : ∃ n : Nat, max (i - margin) 0 = n := ⟨(max (i - margin) 0).toNat, by omega⟩
  have hlt : n < 2 ^ (53 : Nat) := by
    simp only [margin] at hn
    omega
  have hrest : remaining (.int i) =
      .ok (.finite false (n * Binary64.one) (Binary64.fits_mul_one hlt)) := by
    rw [remaining, hn, Binary64.ofInteger, Binary64.ofInt_natCast hlt]
    rfl
  have hone : 0 ≤ (Binary64.one : Int) := Int.natCast_nonneg _
  have hleft : unitsLeft (i * Binary64.one) = (n * Binary64.one : Nat) := by
    rw [unitsLeft, ← Int.sub_mul, Int.natCast_mul, ← hn]
    rcases Int.le_total 0 (i - margin) with h | h
    · rw [Int.max_eq_left h, Int.max_eq_left (Int.mul_nonneg h hone)]
    · rw [Int.max_eq_right h, Int.zero_mul,
        Int.max_eq_right (Int.mul_nonpos_of_nonpos_of_nonneg h hone)]
  exact ⟨_, _, rfl, hrest, congrArg some hleft.symm⟩

theorem isExact_true : IsExact (.bool true) := by
  have hone : 0 < Binary64.one := Binary64.one_pos
  have hleft : unitsLeft Binary64.one = 0 := by
    rw [unitsLeft, margin, Int.max_eq_right (by omega)]
  exact ⟨_, _, rfl, rfl, congrArg some hleft.symm⟩

/-- The minute is taken exactly from all lifetimes that are not absurdly long. -/
theorem isExact_of_le (h : isPositive d = .ok true) (hu : d.units? = some total)
    (hle : total ≤ (2 ^ (53 : Nat) * Binary64.one : Nat)) : IsExact d := by
  have hone : 0 < Binary64.one := Binary64.one_pos
  cases d with
  | bool b =>
    obtain rfl : b = true := Except.ok.inj h
    exact isExact_true
  | int i =>
    obtain rfl := Option.some.inj hu
    rw [Int.natCast_mul] at hle
    have hi : i ≤ (2 ^ (53 : Nat) : Nat) := Int.le_of_mul_le_mul_right hle (by omega)
    exact isExact_int hi
  | float x =>
    have hpos : 0 < total := units_pos_of_isPositive h hu
    cases x with
    | finite negative units fits => exact isExact_float hu hpos hle
    | nan => cases hu
    | infinite negative => cases hu
  | _ => cases h

/-! ### Grants -/

/-- The lifetime that an answer states. -/
def lifetimeOf (members : Members Data) : Data := (member members "expires_in").orElse (.int 0)

variable {members : Members Data}

theorem grantOf_eq_ok_iff {g : Grant} : grantOf d = .ok g ↔
    ∃ members, d.members? = some members ∧ (member members "access_token").isGiven = true ∧
      isPositive (lifetimeOf members) = .ok true ∧
      g = ⟨member members "access_token", lifetimeOf members⟩ := by
  rw [grantOf]
  cases d.members? with
  | none => simp
  | some members =>
    have hlifetime : (member members "expires_in").orElse (.int 0) = lifetimeOf members := rfl
    simp only [hlifetime, Option.some.injEq, exists_eq_left']
    cases (member members "access_token").isGiven with
    | false => simp
    | true =>
      rcases isPositive (lifetimeOf members) with f | _ | _
      · simp
      · simp
      · simp [eq_comm]

/-- A body that grants a token, and the members it has. -/
def Grants (text : String) (members : Members Data) : Prop :=
  (∃ chars d, Json.documentText text = .ok chars ∧ Json.read .document chars = .ok d ∧
    d.members? = some members) ∧
  (member members "access_token").isGiven = true ∧ isPositive (lifetimeOf members) = .ok true

theorem readGrant_eq_ok_iff {text : String} {g : Grant} : readGrant text = .ok g ↔
    ∃ members, Grants text members ∧ g = ⟨member members "access_token", lifetimeOf members⟩ := by
  simp only [readGrant, Grants]
  cases Json.documentText text with
  | error p => simp
  | ok chars =>
    dsimp only
    cases hd : Json.read .document chars with
    | error p => simp [hd]
    | ok d =>
      rw [grantOf_eq_ok_iff]
      simp [hd, and_assoc]

theorem readGrant_of_grants {text : String} (h : Grants text members) :
    readGrant text = .ok ⟨member members "access_token", lifetimeOf members⟩ :=
  readGrant_eq_ok_iff.mpr ⟨members, h, rfl⟩

/-! ### One call -/

/-- A call for a token, with all it meets outside. -/
structure Call where
  surroundings : Surroundings
  closed : Bool := false

def Call.run (c : Call) (e : Exchange) : Except Failure Data × Exchange :=
  (token c.surroundings c.closed).runFrom e

/-- The call asks the metadata server once, and the answer grants a token. -/
def Call.Fetches (c : Call) (e : Exchange) (members : Members Data) : Prop :=
  ∃ request text, (c.run e).2.asked = e.asked ++ [request] ∧
    body request (c.surroundings.metadata e.asked request) = .ok (.ok text) ∧ Grants text members

variable {e : Exchange} {c : Call} {calls : List Call}

/-- A question that can be asked is recorded, and the answer says what comes of it. -/
theorem runFrom_ask_of_request {s : Surroundings} {path : String} {query : List (String × String)}
    {r : Web.Request} (h : request s.metadataAddress path query = .ok r)
    (problem : MetadataProblem → CredentialProblem) (e : Exchange) :
    (ask s false path query problem).runFrom e =
      (match body r (s.metadata e.asked r) with
        | .ok (.ok text) => .ok text
        | .ok (.error p) => .error (.credentials (problem p))
        | .error x => .error x, { e with asked := e.asked ++ [r] }) := by
  have hrun : ∀ next : Web.Answer → Work String,
      (sendToMetadata s r >>= next).runFrom e =
        (next (s.metadata e.asked r)).runFrom { e with asked := e.asked ++ [r] } := fun next => rfl
  simp only [ask, h, ofFault_ok, pure_bind, Bool.false_eq_true, if_false, hrun]
  rcases body r (s.metadata e.asked r) with x | (p | text) <;> rfl

/-- A question to the metadata server is recorded if it is asked, and nothing else changes. -/
theorem runFrom_ask (s : Surroundings) (closed : Bool) (path : String)
    (query : List (String × String)) (problem : MetadataProblem → CredentialProblem)
    (e : Exchange) :
    (∃ request text, body request (s.metadata e.asked request) = .ok (.ok text) ∧
      (ask s closed path query problem).runFrom e =
        (.ok text, { e with asked := e.asked ++ [request] })) ∨
    (∃ request x, (∀ text, body request (s.metadata e.asked request) ≠ .ok (.ok text)) ∧
      (ask s closed path query problem).runFrom e =
        (.error x, { e with asked := e.asked ++ [request] })) ∨
    ∃ x, (ask s closed path query problem).runFrom e = (.error x, e) := by
  cases hrequest : request s.metadataAddress path query with
  | error f => exact .inr (.inr ⟨_, by rw [ask, hrequest]; rfl⟩)
  | ok request =>
    cases closed with
    | true => exact .inr (.inr ⟨_, by rw [ask, hrequest]; rfl⟩)
    | false =>
      rw [runFrom_ask_of_request hrequest]
      rcases hbody : body request (s.metadata e.asked request) with x | (p | text)
      · exact .inr (.inl ⟨request, x, by simp [hbody], by simp⟩)
      · exact .inr (.inl ⟨request, .credentials (problem p), by simp [hbody], by simp⟩)
      · exact .inl ⟨request, text, hbody, by simp⟩

/-- What a call comes to: the token kept is used again, no token is granted, or one is. Of a token
that is valid for too long the end cannot be computed. -/
inductive Call.Outcome (c : Call) (e : Exchange) : Prop where
  | kept (t : Data) (valid : e.tokens.valid? c.surroundings.now = some t)
      (run : c.run e = (.ok t, e))
  | refused (x : Failure) (asked : List Web.Request) (none : ∀ members, ¬ c.Fetches e members)
      (run : c.run e = (.error x, { e with asked := asked }))
  | granted (request : Web.Request) (members : Members Data) (rest : Binary64)
      (fetches : c.Fetches e members) (left : remaining (lifetimeOf members) = .ok rest)
      (run : c.run e = (.ok (member members "access_token"), { e with
        asked := e.asked ++ [request]
        tokens := ⟨some (member members "access_token"), c.surroundings.answered.add rest⟩ }))
  | tooLong (request : Web.Request) (members : Members Data) (f : Fault)
      (fetches : c.Fetches e members) (left : remaining (lifetimeOf members) = .error f)
      (run : c.run e = (.error (.fault f), { e with
        asked := e.asked ++ [request]
        tokens := ⟨some (member members "access_token"), e.tokens.expires⟩ }))

theorem Call.Fetches.lasting (h : c.Fetches e members) :
    isPositive (lifetimeOf members) = .ok true := by
  obtain ⟨_, _, _, _, hgrants⟩ := h
  exact hgrants.2.2

theorem Call.not_fetches_of_asked (h : (c.run e).2.asked = e.asked) (members : Members Data) :
    ¬ c.Fetches e members := by
  rintro ⟨request, text, hasked, -⟩
  have hlen := congrArg List.length (h.symm.trans hasked)
  simp at hlen

theorem Call.not_fetches_of_answer {request : Web.Request}
    (hasked : (c.run e).2.asked = e.asked ++ [request])
    (h : ∀ text, body request (c.surroundings.metadata e.asked request) = .ok (.ok text) →
      ¬ Grants text members) : ¬ c.Fetches e members := by
  rintro ⟨request', text, hasked', hbody, hgrants⟩
  obtain rfl : request = request' := by simpa using hasked.symm.trans hasked'
  exact h text hbody hgrants

theorem runFrom_keep (s : Surroundings) (g : Grant) (e : Exchange) :
    (keep s g).runFrom e =
      match remaining g.lifetime with
      | .ok rest => (.ok g.token, { e with tokens := ⟨some g.token, s.answered.add rest⟩ })
      | .error f => (.error (.fault f), { e with tokens := ⟨some g.token, e.tokens.expires⟩ }) := by
  rw [keep, expiry_eq]
  cases remaining g.lifetime with
  | ok rest => rfl
  | error f => rfl

theorem Call.outcome (c : Call) (e : Exchange) : c.Outcome e := by
  have hrun : c.run e = (token c.surroundings c.closed).runFrom e := rfl
  rw [token, runFrom_bind_ok (runFrom_get e)] at hrun
  cases hvalid : e.tokens.valid? c.surroundings.now with
  | some t =>
    rw [hvalid] at hrun
    exact .kept t hvalid hrun
  | none =>
    rw [hvalid, runFrom_bind, runFrom_mapFailure] at hrun
    rcases runFrom_ask c.surroundings c.closed tokenPath [("scopes", scope)] .token e with
      ⟨request, text, hbody, hask⟩ | ⟨request, x, hbody, hask⟩ | ⟨x, hask⟩
    · rw [hask] at hrun
      dsimp only [Except.mapError] at hrun
      cases hread : readGrant text with
      | error x =>
        rw [hread] at hrun
        refine .refused x _ (fun members => ?_) hrun
        refine Call.not_fetches_of_answer (congrArg (·.2.asked) hrun) fun text' hbody' hgrants => ?_
        obtain rfl : text = text' := by simpa using hbody.symm.trans hbody'
        exact nomatch hread.symm.trans (readGrant_of_grants hgrants)
      | ok g =>
        obtain ⟨members, hgrants, rfl⟩ := readGrant_eq_ok_iff.mp hread
        rw [hread] at hrun
        dsimp only at hrun
        rw [runFrom_keep] at hrun
        cases hleft : remaining (lifetimeOf members) with
        | ok rest =>
          simp only [hleft] at hrun
          refine .granted request members rest ⟨request, text, ?_, hbody, hgrants⟩ hleft hrun
          rw [hrun]
        | error f =>
          simp only [hleft] at hrun
          refine .tooLong request members f ⟨request, text, ?_, hbody, hgrants⟩ hleft hrun
          rw [hrun]
    · rw [hask] at hrun
      exact .refused _ _ (fun members => Call.not_fetches_of_answer (congrArg (·.2.asked) hrun)
        fun text hok => absurd hok (hbody text)) hrun
    · rw [hask] at hrun
      exact .refused _ e.asked (Call.not_fetches_of_asked (congrArg (·.2.asked) hrun)) hrun

/-! ### Calls one after another -/

/-- The record after calls, the first of which finds no token. -/
def afterAll (calls : List Call) : Exchange := calls.foldl (fun e c => (c.run e).2) {}

theorem afterAll_append_singleton (calls : List Call) (c : Call) :
    afterAll (calls ++ [c]) = (c.run (afterAll calls)).2 := by
  rw [afterAll, List.foldl_append]
  rfl

/-- Among calls, `f` is the last that fetched a token. -/
def LastFetch (calls before : List Call) (f : Call) (members : Members Data) : Prop :=
  ∃ later, calls = before ++ f :: later ∧ f.Fetches (afterAll before) members ∧
    ∀ between g rest, later = between ++ g :: rest →
      ∀ members', ¬ g.Fetches (afterAll (before ++ f :: between)) members'

theorem LastFetch.fetches {before : List Call} {f : Call} (h : LastFetch calls before f members) :
    f.Fetches (afterAll before) members := by
  obtain ⟨_, _, hf, _⟩ := h
  exact hf

theorem lastFetch_append_self (h : c.Fetches (afterAll calls) members) :
    LastFetch (calls ++ [c]) calls c members :=
  ⟨[], rfl, h, fun between g rest hnil => by simp at hnil⟩

theorem LastFetch.append {before : List Call} {f : Call} (h : LastFetch calls before f members)
    (hc : ∀ members', ¬ c.Fetches (afterAll calls) members') :
    LastFetch (calls ++ [c]) before f members := by
  obtain ⟨later, rfl, hf, hlater⟩ := h
  refine ⟨later ++ [c], by simp, hf, fun between g rest hsplit => ?_⟩
  rcases List.eq_nil_or_concat rest with rfl | ⟨rest, d, rfl⟩
  · obtain ⟨rfl, hg⟩ := List.append_inj' hsplit rfl
    obtain rfl := List.head_eq_of_cons_eq hg
    exact hc
  · have hsplit' : later ++ [c] = (between ++ g :: rest) ++ [d] := by simp [hsplit]
    exact hlater between g rest (List.append_inj' hsplit' rfl).1

/-- The token kept after calls is the one that the last fetch got. It is given up when as much as is
used of its lifetime has passed since the answer was there. -/
def Cached (calls : List Call) (tokens : TokenCache) : Prop :=
  tokens.token = none ∨ ∃ before f members, LastFetch calls before f members ∧
    tokens.token = some (member members "access_token") ∧
    ∀ rest, remaining (lifetimeOf members) = .ok rest →
      tokens.expires = f.surroundings.answered.add rest

theorem Cached.append {tokens : TokenCache} (h : Cached calls tokens)
    (hc : ∀ members, ¬ c.Fetches (afterAll calls) members) : Cached (calls ++ [c]) tokens := by
  rcases h with hnone | ⟨before, f, members, hlast, hcached⟩
  · exact .inl hnone
  · exact .inr ⟨before, f, members, hlast.append hc, hcached⟩

theorem cached_afterAll (calls : List Call) : Cached calls (afterAll calls).tokens := by
  induction calls using List.reverseRecOn with
  | nil => exact .inl rfl
  | append_singleton calls c ih =>
    rw [afterAll_append_singleton]
    rcases c.outcome (afterAll calls) with
      ⟨t, -, hrun⟩ | ⟨x, asked, hnone, hrun⟩ | ⟨request, members, rest, hf, hleft, hrun⟩ |
      ⟨request, members, f, hf, hleft, hrun⟩
    · rw [hrun]
      exact ih.append (Call.not_fetches_of_asked (congrArg (·.2.asked) hrun))
    · rw [hrun]
      exact ih.append hnone
    · rw [hrun]
      refine .inr ⟨calls, c, members, lastFetch_append_self hf, rfl, fun rest' hleft' => ?_⟩
      obtain rfl := Except.ok.inj (hleft.symm.trans hleft')
      rfl
    · rw [hrun]
      refine .inr ⟨calls, c, members, lastFetch_append_self hf, rfl, fun rest' hleft' => ?_⟩
      exact nomatch hleft.symm.trans hleft'

/-- A token that was fetched by `f` may still be used at the time `now`. -/
structure Fresh (f : Call) (members : Members Data) (now : Binary64) : Prop where
  lasting : isPositive (lifetimeOf members) = .ok true
  inTime : ∀ rest, remaining (lifetimeOf members) = .ok rest →
    now.lt (f.surroundings.answered.add rest) = true

/-- In exact numbers, the token is used before a minute is left of its lifetime. -/
theorem Fresh.units_lt {f : Call} {now : Binary64} (h : Fresh f members now) {t t₀ total : Int}
    (ht : now.units? = some t) (ht₀ : f.surroundings.answered.units? = some t₀)
    (htotal : (lifetimeOf members).units? = some total) (hexact : IsExact (lifetimeOf members)) :
    0 < total ∧ t < t₀ + unitsLeft total := by
  obtain ⟨total', rest, htotal', hrest, hunits⟩ := hexact
  obtain rfl := Option.some.inj (htotal.symm.trans htotal')
  exact ⟨units_pos_of_isPositive h.lasting htotal,
    Binary64.units_lt_of_lt_add ht ht₀ hunits (h.inTime rest hrest)⟩

theorem exists_lastFetch_of_reused {t : Data} (hok : (c.run (afterAll calls)).1 = .ok t)
    (hasked : (c.run (afterAll calls)).2.asked = (afterAll calls).asked) :
    ∃ before f members, LastFetch calls before f members ∧ t = member members "access_token" ∧
      Fresh f members c.surroundings.now := by
  rcases c.outcome (afterAll calls) with
    ⟨t', hvalid, hrun⟩ | ⟨x, asked, -, hrun⟩ | ⟨request, members, rest, hf, -, -⟩ |
    ⟨request, members, f, hf, -, -⟩
  · obtain rfl : t' = t := Except.ok.inj ((congrArg (·.1) hrun).symm.trans hok)
    rw [TokenCache.valid?] at hvalid
    split at hvalid
    · next hlt =>
      rcases cached_afterAll calls with hnone | ⟨before, f, members, hlast, htoken, hexpires⟩
      · cases hvalid.symm.trans hnone
      · refine ⟨before, f, members, hlast, Option.some.inj (hvalid.symm.trans htoken),
          hlast.fetches.lasting, fun rest hrest => ?_⟩
        rw [← hexpires rest hrest]
        exact hlt
    · cases hvalid
  · cases (congrArg (·.1) hrun).symm.trans hok
  · exact absurd hf (Call.not_fetches_of_asked hasked members)
  · exact absurd hf (Call.not_fetches_of_asked hasked members)

theorem tokens_of_run_error {x : Failure} (h : (c.run e).1 = .error x) :
    (c.run e).2.tokens.expires = e.tokens.expires ∧
      ((∀ members, c.Fetches e members → ∃ rest, remaining (lifetimeOf members) = .ok rest) →
        (c.run e).2.tokens = e.tokens) := by
  rcases c.outcome e with
    ⟨t, -, hrun⟩ | ⟨x, asked, -, hrun⟩ | ⟨request, members, rest, -, -, hrun⟩ |
    ⟨request, members, f, hf, hleft, hrun⟩
  · cases (congrArg (·.1) hrun).symm.trans h
  · rw [hrun]
    exact ⟨rfl, fun _ => rfl⟩
  · cases (congrArg (·.1) hrun).symm.trans h
  · refine ⟨by rw [hrun], fun hrest => ?_⟩
    obtain ⟨rest, hrest⟩ := hrest members hf
    exact nomatch hleft.symm.trans hrest

/-- A token is used again only in time, and it is the one that was fetched last; a call that fails
leaves it as it is. No order of the times that the clock shows is needed. The end of a lifetime that
is too long for the format cannot be computed, which is the one failure after a fetch. -/
theorem run_fresh (calls : List Call) (c : Call) :
    (∀ t, (c.run (afterAll calls)).1 = .ok t →
      (c.run (afterAll calls)).2.asked = (afterAll calls).asked →
      ∃ before f members, LastFetch calls before f members ∧
        t = member members "access_token" ∧ Fresh f members c.surroundings.now ∧
        ∀ now answered total, c.surroundings.now.units? = some now →
          f.surroundings.answered.units? = some answered →
          (lifetimeOf members).units? = some total → IsExact (lifetimeOf members) →
          0 < total ∧ now < answered + unitsLeft total) ∧
    ∀ x, (c.run (afterAll calls)).1 = .error x →
      (c.run (afterAll calls)).2.tokens.expires = (afterAll calls).tokens.expires ∧
      ((∀ members, c.Fetches (afterAll calls) members →
          ∃ rest, remaining (lifetimeOf members) = .ok rest) →
        (c.run (afterAll calls)).2.tokens = (afterAll calls).tokens) := by
  refine ⟨fun t hok hasked => ?_, fun x hx => tokens_of_run_error hx⟩
  obtain ⟨before, f, members, hlast, htoken, hfresh⟩ := exists_lastFetch_of_reused hok hasked
  exact ⟨before, f, members, hlast, htoken, hfresh, fun now answered total hnow hanswered htotal
    hexact => hfresh.units_lt hnow hanswered htotal hexact⟩

/-- A call to a server that grants a token for an hour; the clock shows these seconds. -/
def hourly (seconds : Int) : Call where
  surroundings := {
    service := fun _ _ => .failed "down"
    metadata := fun _ _ => .reply 200 "\x7b\"access_token\":\"t\",\"expires_in\":3600\x7d"
    metadataAddress := defaultAddress
    now := .ofInt seconds }

/-- A call to a server that does not answer. -/
def unanswered (seconds : Int) : Call where
  surroundings := { (hourly seconds).surroundings with metadata := fun _ _ => .failed "down" }

/-- The text that came of a call. -/
def textOf : Except Failure Data → Option String
  | .ok (.text t) => some t
  | _ => none

theorem eq_of_textOf {r : Except Failure Data} {t : String} (h : textOf r = some t) :
    r = .ok (.text t) := by
  unfold textOf at h
  split at h
  · cases h
    rfl
  · cases h

theorem lifetime_hourly (seconds : Int) (h : (hourly seconds).Fetches e members) :
    (lifetimeOf members).units? = some (3600 * Binary64.one : Nat) := by
  obtain ⟨request, text, -, hbody, hgrants⟩ := h
  have htext : text = "\x7b\"access_token\":\"t\",\"expires_in\":3600\x7d" := by
    revert hbody
    rw [hourly, body]
    split
    · simp
    · intro hbody
      exact (Except.ok.inj (Except.ok.inj hbody)).symm
  have hunits : (readGrant text).toOption.bind (·.lifetime.units?) =
      some (3600 * Binary64.one : Nat) := by
    rw [htext]
    decide +kernel
  rw [readGrant_of_grants hgrants] at hunits
  exact hunits

theorem eq_of_lastFetch_singleton {before : List Call} {f : Call}
    (h : LastFetch [c] before f members) : before = [] ∧ f = c := by
  obtain ⟨later, hsplit, -⟩ := h
  cases before with
  | nil => exact ⟨rfl, (List.head_eq_of_cons_eq hsplit).symm⟩
  | cons b before => simp at hsplit

/-- In the last second before the margin the token is used again. In the next one the server is
asked, and if it does not answer, the token is left as it is. -/
theorem run_fresh_hourly :
    ((hourly 3539).run (afterAll [hourly 0])).1 = .ok (.text "t") ∧
    ((hourly 3539).run (afterAll [hourly 0])).2.asked = (afterAll [hourly 0]).asked ∧
    (∃ before f members, LastFetch [hourly 0] before f members ∧
      Data.text "t" = member members "access_token" ∧
      Fresh f members (hourly 3539).surroundings.now ∧
      0 < ((3600 * Binary64.one : Nat) : Int) ∧
      ((3539 * Binary64.one : Nat) : Int) < 0 + unitsLeft (3600 * Binary64.one : Nat)) ∧
    ∃ x, ((unanswered 3540).run (afterAll [hourly 0])).1 = .error x ∧
      ((unanswered 3540).run (afterAll [hourly 0])).2.tokens = (afterAll [hourly 0]).tokens := by
  have hrun : textOf ((hourly 3539).run (afterAll [hourly 0])).1 = some "t" ∧
      ((hourly 3539).run (afterAll [hourly 0])).2.asked = (afterAll [hourly 0]).asked ∧
      ((unanswered 3540).run (afterAll [hourly 0])).1.isOk = false := by
    decide +kernel
  obtain ⟨htext, hasked, herror⟩ := hrun
  have hok := eq_of_textOf htext
  obtain ⟨hreused, -⟩ := run_fresh [hourly 0] (hourly 3539)
  obtain ⟨before, f, members, hlast, htoken, hfresh, hexactly⟩ := hreused _ hok hasked
  obtain ⟨rfl, rfl⟩ := eq_of_lastFetch_singleton hlast
  have htotal := lifetime_hourly 0 hlast.fetches
  have hexact : IsExact (lifetimeOf members) :=
    isExact_of_le hfresh.lasting htotal
      (Int.ofNat_le.mpr (Nat.mul_le_mul_right Binary64.one (by decide)))
  have hnow : (hourly 3539).surroundings.now.units? = some (3539 * Binary64.one : Nat) := by
    decide +kernel
  have hanswered : (hourly 0).surroundings.answered.units? = some 0 := by decide +kernel
  obtain ⟨hpos, hlt⟩ := hexactly _ _ _ hnow hanswered htotal hexact
  have hunanswered : ∀ members, ¬ (unanswered 3540).Fetches (afterAll [hourly 0]) members := by
    rintro members ⟨request, text, -, hbody, -⟩
    exact nomatch hbody
  obtain ⟨-, hkept⟩ := run_fresh [hourly 0] (unanswered 3540)
  obtain ⟨x, hx⟩ : ∃ x, ((unanswered 3540).run (afterAll [hourly 0])).1 = .error x := by
    cases h : ((unanswered 3540).run (afterAll [hourly 0])).1 with
    | error x => exact ⟨x, rfl⟩
    | ok t => simp [h, Except.isOk, Except.toBool] at herror
  obtain ⟨-, htokens⟩ := hkept x hx
  exact ⟨hok, hasked, ⟨[], hourly 0, members, hlast, htoken, hfresh, hpos, hlt⟩, x, hx,
    htokens fun members hf => absurd hf (hunanswered members)⟩

end MetricFrames.Credentials
