import MetricFrames.Proofs.Datasource.Closing

/-!
# Instances that are kept

As long as settings with the same id and the same time of their last change say the same, it makes
no difference whether an instance was kept or made anew: what is given out has all that a fresh
instance of the settings just given would have, and its tokens are those of equal settings
(`get_likeFresh`).
-/

namespace MetricFrames

open Registry (sameUpdate)

/-! ### Settings that say the same -/

/-- What is compared of a time: the instant, and whether a clock is known. -/
def Timestamp.moment (t : Timestamp) : Bool × Int := (t.offset.isSome, t.instantMicros)

theorem sameUpdate_iff {s t : Option Timestamp} :
    sameUpdate s t = true ↔ s.map Timestamp.moment = t.map Timestamp.moment := by
  cases s with
  | none => cases t <;> simp [sameUpdate]
  | some s => cases t <;> simp [sameUpdate, Timestamp.same, Timestamp.moment]

/-- Two settings of a datasource are equal. The order of members says nothing, and times are the
same if they are the same instant. -/
structure Settings.Same (s t : Settings) : Prop where
  id : s.id = t.id
  updated : sameUpdate s.updated t.updated = true
  address : s.address = t.address
  plain : ∀ name, s.plain.get? name = t.plain.get? name
  secrets : ∀ name, s.secrets.get? name = t.secrets.get? name

theorem Settings.Same.refl (s : Settings) : s.Same s where
  id := rfl
  updated := sameUpdate_iff.mpr rfl
  address := rfl
  plain _ := rfl
  secrets _ := rfl

section

variable {s t u : Settings}

theorem Settings.Same.symm (h : s.Same t) : t.Same s where
  id := h.id.symm
  updated := sameUpdate_iff.mpr (sameUpdate_iff.mp h.updated).symm
  address := h.address.symm
  plain name := (h.plain name).symm
  secrets name := (h.secrets name).symm

theorem Settings.Same.trans (h : s.Same t) (h' : t.Same u) : s.Same u where
  id := h.id.trans h'.id
  updated :=
    sameUpdate_iff.mpr ((sameUpdate_iff.mp h.updated).trans (sameUpdate_iff.mp h'.updated))
  address := h.address.trans h'.address
  plain name := (h.plain name).trans (h'.plain name)
  secrets name := (h.secrets name).trans (h'.secrets name)

theorem Settings.Same.plainOr_eq (h : s.Same t) (name : String) (fallback : Data) :
    s.plainOr name fallback = t.plainOr name fallback := by
  simp only [plainOr, Query.member, h.plain]

theorem Settings.Same.authentication_eq (h : s.Same t) : s.authentication = t.authentication := by
  simp only [authentication, h.plainOr_eq]

theorem Settings.Same.timeout_eq (h : s.Same t) : s.timeout = t.timeout := by
  simp only [timeout, h.plainOr_eq]

theorem Settings.Same.serviceAddress_eq (h : s.Same t) : s.serviceAddress = t.serviceAddress := by
  simp only [serviceAddress, h.address]

end

/-! ### Fresh instances -/

namespace Instance

variable {host : Host} {s t : Settings} {i fresh : Instance}

/-- Equal settings make the same instance, up to the settings themselves and the tokens that the
host gives for them. -/
theorem build_of_same (h : s.Same t) (hb : build host s = .ok i) :
    build host t = .ok { i with settings := t, bearer := bearerOf host t i.authentication } := by
  simp only [build, h.authentication_eq, h.timeout_eq, h.serviceAddress_eq] at hb ⊢
  cases ha : t.authentication with
  | error unknown =>
    rw [ha] at hb
    cases hb
  | ok authentication =>
    rw [ha] at hb
    dsimp only at hb ⊢
    cases ht : t.timeout with
    | error f =>
      rw [ht] at hb
      cases hb
    | ok timeout =>
      rw [ht] at hb
      dsimp only at hb ⊢
      cases hr : Web.Address.readBase t.serviceAddress.toList with
      | error f =>
        rw [hr] at hb
        cases hb
      | ok base =>
        rw [hr] at hb
        cases hb
        rfl

theorem bearer_of_build (hb : build host s = .ok i) :
    i.bearer = bearerOf host s i.authentication := by
  have hsame := build_of_same (.refl s) hb
  rw [hb] at hsame
  exact congrArg bearer (Except.ok.inj hsame)

/-- An instance has all that a fresh one of the settings `s` has. -/
structure LikeFresh (host : Host) (s : Settings) (i fresh : Instance) : Prop where
  id : i.settings.id = s.id
  address : i.settings.serviceAddress = fresh.settings.serviceAddress
  base : i.base = fresh.base
  authentication : i.authentication = fresh.authentication
  defaultProject : i.settings.defaultProject = fresh.settings.defaultProject
  clientEmail : i.settings.clientEmail = fresh.settings.clientEmail
  tokenUri : i.settings.tokenUri = fresh.settings.tokenUri
  secrets : ∀ name, i.settings.secrets.get? name = fresh.settings.secrets.get? name
  timeout : i.timeout = fresh.timeout
  hasMetadata : i.hasMetadata = fresh.hasMetadata
  ambient : i.authentication = .ambient → i.bearer = fresh.bearer
  token : i.authentication = .token →
    ∃ t : Settings, t.Same s ∧ i.bearer = host.token.map fun source => .fixed (source t)

theorem likeFresh_of_build (h : t.Same s) (hb : build host t = .ok i) (closed : Bool) :
    ∃ fresh, build host s = .ok fresh ∧ LikeFresh host s { i with closed := closed } fresh := by
  have hsettings : i.settings = t := (open_of_build hb).1
  have hbearer : i.bearer = bearerOf host t i.authentication := bearer_of_build hb
  refine ⟨_, build_of_same h hb, ?_⟩
  constructor
  · rw [hsettings, h.id]
  · rw [hsettings, h.serviceAddress_eq]
  · rfl
  · rfl
  · rw [hsettings, Settings.defaultProject, h.plainOr_eq, Settings.defaultProject]
  · rw [hsettings, Settings.clientEmail, h.plainOr_eq, Settings.clientEmail]
  · rw [hsettings, Settings.tokenUri, h.plainOr_eq, Settings.tokenUri]
  · rw [hsettings]
    exact h.secrets
  · rfl
  · rfl
  · intro ha
    dsimp only at ha ⊢
    rw [hbearer, ha]
    rfl
  · intro ha
    dsimp only at ha ⊢
    refine ⟨t, h, ?_⟩
    rw [hbearer, ha]
    rfl

end Instance

/-! ### Instances of a registry -/

namespace Registry

variable {host : Host} {calls : List Call} {r r' : Registry} {s : Settings} {i : Instance} {n : Nat}

/-- Every instance was made from settings that were given in some call; it may be closed. -/
def MadeBy (host : Host) (calls : List Call) (r : Registry) : Prop :=
  ∀ n i, r.instance? n = some i → .get i.settings ∈ calls ∧
    ∃ made, Instance.build host i.settings = .ok made ∧ i = { made with closed := i.closed }

theorem MadeBy.mono (h : MadeBy host calls r) (c : Call) : MadeBy host (calls ++ [c]) r := by
  intro n i hi
  obtain ⟨hm, hmade⟩ := h n i hi
  exact ⟨List.mem_append_left _ hm, hmade⟩

theorem MadeBy.of_extends (h : MadeBy host calls r) (hr : r.Extends r')
    (hlen : r'.made.length = r.made.length) : MadeBy host calls r' := by
  intro n j hj
  obtain ⟨i, hi, hij, -⟩ := hr.exists_before hlen hj
  obtain ⟨hm, made, hb, hmade⟩ := h n i hi
  have hsettings : j.settings = i.settings := by rw [hij]
  rw [hsettings]
  exact ⟨hm, made, hb, by rw [hij, hmade]⟩

theorem MadeBy.make (h : MadeBy host calls r) (s : Settings) :
    MadeBy host (calls ++ [.get s]) (r.make host s).2 := by
  rcases make_cases r host s with ⟨i, hb, hm⟩ | ⟨x, -, hm⟩
  · rw [hm]
    intro n j hj
    rcases cases_of_instance?_insert hj with hj | ⟨rfl, rfl⟩
    · exact h.mono (.get s) n j hj
    · rw [(Instance.open_of_build hb).1]
      exact ⟨List.mem_append_right _ (List.mem_singleton.mpr rfl), j, hb, rfl⟩
  · rw [hm]
    exact h.mono _

theorem MadeBy.get (h : MadeBy host calls r) (s : Settings) :
    MadeBy host (calls ++ [.get s]) (r.get host s).2 := by
  rcases get_cases r host s with ⟨n, i, -, -, -, hg⟩ | ⟨n, -, hg⟩ | ⟨-, hg⟩
  · rw [hg]
    exact h.mono _
  · rw [hg]
    exact (h.of_extends (extends_close r n) (length_made_close r n)).make s
  · rw [hg]
    exact h.make s

theorem MadeBy.dispose (h : MadeBy host calls r) :
    MadeBy host (calls ++ [.dispose]) r.dispose :=
  (h.of_extends (extends_dispose r) (length_made_closeAll r r.current)).mono _

theorem madeBy_afterAll (host : Host) (calls : List Call) :
    MadeBy host calls (afterAll host calls) := by
  have hempty : MadeBy host [] {} := by
    intro n i hi
    cases hi
  exact afterAll_induction hempty (fun _ s h => h.get s) (fun _ h => h.dispose) calls

theorem updated_of_get (h : r.get host s = (.ok n, r')) (hi : r'.instance? n = some i) :
    sameUpdate i.settings.updated s.updated = true := by
  rcases cases_of_get_ok h with ⟨rfl, -, j, hj, hu⟩ | ⟨r₀, j, hb, rfl, rfl⟩
  · obtain rfl := Option.some.inj (hj.symm.trans hi)
    exact hu
  · rw [instance?_insert_new] at hi
    obtain rfl := Option.some.inj hi
    rw [(Instance.open_of_build hb).1]
    exact (Settings.Same.refl s).updated

/-- Settings with the same id that were changed last at the same time say the same. -/
def Consistent (calls : List Call) : Prop :=
  ∀ s t, .get s ∈ calls → .get t ∈ calls → s.id = t.id → sameUpdate s.updated t.updated = true →
    s.Same t

/-- An instance that is given out is like a fresh one of the settings just given, and there is one:
that it was perhaps made for an earlier call makes no difference. -/
theorem get_likeFresh (hc : Consistent (calls ++ [.get s]))
    (h : (afterAll host calls).get host s = (.ok n, r')) :
    ∃ i fresh, r'.instance? n = some i ∧ Instance.build host s = .ok fresh ∧
      i.LikeFresh host s fresh := by
  have hmade := (madeBy_afterAll host calls).get s
  have hsound := (sound_afterAll host calls).get s
  rw [h] at hmade hsound
  obtain ⟨i, hi, hid, -⟩ := hsound.current s.id n (current_of_get h).1
  obtain ⟨hmem, made, hb, hmadeOf⟩ := hmade n i hi
  have hsame : i.settings.Same s :=
    hc _ _ hmem (List.mem_append_right _ (List.mem_singleton.mpr rfl)) hid (updated_of_get h hi)
  obtain ⟨fresh, hf, hlike⟩ := Instance.likeFresh_of_build hsame hb i.closed
  rw [← hmadeOf] at hlike
  exact ⟨i, fresh, hi, hf, hlike⟩

/-- Settings with a default project and the name of an account. -/
def withAccount : Settings :=
  changedAt anHourBefore [("defaultProject", .text "d"), ("clientEmail", .text "c")]

/-- The same with the members in the other order. -/
def withAccountAgain : Settings :=
  changedAt anHourBefore [("clientEmail", .text "c"), ("defaultProject", .text "d")]

/-- Settings of no use. -/
def withMagic : Settings :=
  changedAt (.unixStart (some 0)) [("authenticationType", .text "magic")]

theorem get?_swap {a b : String × Data} (h : a.1 ≠ b.1) (name : String) :
    Members.get? name [a, b] = Members.get? name [b, a] := by
  rw [Members.get?_cons, Members.get?_cons, Members.get?_cons, Members.get?_cons]
  by_cases ha : a.1 = name
  · have hb : b.1 ≠ name := fun hb => h (ha.trans hb.symm)
    rw [if_pos ha, if_neg hb, if_pos ha]
  · rw [if_neg ha, if_neg ha]

theorem same_withAccount : withAccount.Same withAccountAgain where
  id := rfl
  updated := by decide
  address := rfl
  plain := get?_swap (by decide)
  secrets _ := rfl

theorem consistent_withAccount :
    Consistent [.get withAccount, .get withMagic, .get withAccountAgain] := by
  have haccount : ∀ s, .get s ∈ [Call.get withAccount, .get withMagic, .get withAccountAgain] →
      s = withMagic ∨ withAccount.Same s ∧ s.updated = withAccount.updated := by
    intro s hs
    simp only [List.mem_cons, Call.get.injEq, List.not_mem_nil, or_false] at hs
    rcases hs with rfl | rfl | rfl
    · exact .inr ⟨.refl _, rfl⟩
    · exact .inl rfl
    · exact .inr ⟨same_withAccount, rfl⟩
  intro s t hs ht _ hu
  rcases haccount s hs with rfl | ⟨hs, hsu⟩ <;> rcases haccount t ht with rfl | ⟨ht, htu⟩
  · exact .refl _
  · rw [htu] at hu
    exact absurd hu (by decide)
  · rw [hsu] at hu
    exact absurd hu (by decide)
  · exact hs.symm.trans ht

/-- An instance is given out again, for equal settings and after others that were of no use. -/
theorem get_likeFresh_kept :
    let host : Host := { token := some fun _ => "key" }
    ∃ r' i fresh,
      (afterAll host [.get withAccount, .get withMagic]).get host withAccountAgain = (.ok 0, r') ∧
      r'.instance? 0 = some i ∧ Instance.build host withAccountAgain = .ok fresh ∧
      i.LikeFresh host withAccountAgain fresh := by
  intro host
  have hget : ((afterAll host [.get withAccount, .get withMagic]).get host withAccountAgain).1 =
      .ok 0 := by decide +kernel
  rcases h : (afterAll host [.get withAccount, .get withMagic]).get host withAccountAgain
    with ⟨_, r'⟩
  rw [h] at hget
  subst hget
  obtain ⟨i, fresh, hi, hb, hlike⟩ := get_likeFresh consistent_withAccount h
  exact ⟨r', i, fresh, rfl, hi, hb, hlike⟩

end Registry
end MetricFrames
