import Mathlib.Data.List.Induction
import MetricFrames.Proofs.Datasource.Registry
import MetricFrames.Proofs.Datasource.Sending
import MetricFrames.Proofs.Plan.Building

/-!
# Lifetimes of instances

A registry is used by calls that ask for an instance and by calls that close all of them. The
current instances stay open, with one exception: if an outdated instance was closed and its
replacement could not be built, the closed one stays the current one (`Spoilt`). It is given out
again to whoever asks with the old settings, and no request can be made with it. Nothing else ever
gives out a closed instance (`get_closed_iff`).
-/

namespace MetricFrames.Registry

/-- A call of the registry. -/
inductive Call where
  | get (s : Settings)
  | dispose

/-- The registry after a call, whatever the call came to. -/
def after (host : Host) (r : Registry) : Call → Registry
  | .get s => (r.get host s).2
  | .dispose => r.dispose

/-- The registry after calls that started with an empty one. -/
def afterAll (host : Host) (calls : List Call) : Registry := calls.foldl (after host) {}

/-- At some time an instance was outdated, and its replacement could not be built. -/
def Spoilt (host : Host) (calls : List Call) (n : Nat) : Prop :=
  ∃ before s rest, calls = before ++ .get s :: rest ∧ (afterAll host before).Outdated s n ∧
    ∃ x, Instance.build host s = .error x

variable {host : Host} {calls : List Call} {r r' : Registry} {s : Settings} {i : Instance}
  {m n : Nat}

theorem afterAll_append_singleton (host : Host) (calls : List Call) (c : Call) :
    afterAll host (calls ++ [c]) = after host (afterAll host calls) c := by
  rw [afterAll, List.foldl_append]
  rfl

/-- What holds of an empty registry and stays true with every call holds after all calls. -/
theorem afterAll_induction {motive : List Call → Registry → Prop} (hempty : motive [] {})
    (hget : ∀ calls s, motive calls (afterAll host calls) →
      motive (calls ++ [.get s]) ((afterAll host calls).get host s).2)
    (hdispose : ∀ calls, motive calls (afterAll host calls) →
      motive (calls ++ [.dispose]) (afterAll host calls).dispose) (calls : List Call) :
    motive calls (afterAll host calls) := by
  induction calls using List.reverseRecOn with
  | nil => exact hempty
  | append_singleton calls c ih =>
    rw [afterAll_append_singleton]
    cases c with
    | get s => exact hget calls s ih
    | dispose => exact hdispose calls ih

/-! ### What one more call spoils -/

theorem spoilt_append_singleton {c : Call} : Spoilt host (calls ++ [c]) n ↔
    Spoilt host calls n ∨ ∃ s, c = .get s ∧ (afterAll host calls).Outdated s n ∧
      ∃ x, Instance.build host s = .error x := by
  constructor
  · rintro ⟨before, t, rest, hcalls, hout, hx⟩
    rcases List.eq_nil_or_concat rest with rfl | ⟨rest, d, rfl⟩
    · obtain ⟨rfl, hc⟩ := List.append_inj' hcalls rfl
      exact .inr ⟨t, List.head_eq_of_cons_eq hc, hout, hx⟩
    · have hsplit : calls ++ [c] = (before ++ .get t :: rest) ++ [d] := by simp [hcalls]
      exact .inl ⟨before, t, rest, (List.append_inj' hsplit rfl).1, hout, hx⟩
  · rintro (⟨before, t, rest, rfl, hout, hx⟩ | ⟨s, rfl, hout, hx⟩)
    · exact ⟨before, t, rest ++ [c], by simp, hout, hx⟩
    · exact ⟨calls, s, [], rfl, hout, hx⟩

theorem spoilt_append_get : Spoilt host (calls ++ [.get s]) n ↔
    Spoilt host calls n ∨ (afterAll host calls).Outdated s n ∧
      ∃ x, Instance.build host s = .error x := by
  rw [spoilt_append_singleton]
  simp

theorem spoilt_append_dispose :
    Spoilt host (calls ++ [.dispose]) n ↔ Spoilt host calls n := by
  rw [spoilt_append_singleton]
  simp

theorem spoilt_append_get_of_build (hb : Instance.build host s = .ok i) :
    Spoilt host (calls ++ [.get s]) n ↔ Spoilt host calls n := by
  rw [spoilt_append_get, hb]
  simp

theorem spoilt_append_get_of_not_outdated (h : ¬ (afterAll host calls).Outdated s n) :
    Spoilt host (calls ++ [.get s]) n ↔ Spoilt host calls n := by
  rw [spoilt_append_get, or_iff_left fun hs => h hs.1]

/-! ### The invariant -/

/-- Every current instance belongs to its datasource, and it is closed exactly if it was spoilt.
Only instances that were made are spoilt. -/
structure Sound (host : Host) (calls : List Call) (r : Registry) : Prop where
  current : ∀ id n, (id, n) ∈ r.current → ∃ i, r.instance? n = some i ∧ i.settings.id = id ∧
    (i.closed = true ↔ Spoilt host calls n)
  made : ∀ n, Spoilt host calls n → n < r.made.length

theorem Sound.empty (host : Host) : Sound host [] {} where
  current id n h := by cases h
  made n h := by
    obtain ⟨before, t, rest, hcalls, -⟩ := h
    simp at hcalls

theorem Sound.keep (h : Sound host calls r) (hn : ∀ n, ¬ (afterAll host calls).Outdated s n) :
    Sound host (calls ++ [.get s]) r where
  current id n hm := by
    rw [spoilt_append_get_of_not_outdated (hn n)]
    exact h.current id n hm
  made n hs := h.made n ((spoilt_append_get_of_not_outdated (hn n)).mp hs)

theorem Sound.insert (h : Sound host calls r) (hb : Instance.build host s = .ok i)
    (hcurrent : r'.current = r.current) (hlen : r'.made.length = r.made.length)
    (hothers : ∀ id n, (id, n) ∈ r.current → id ≠ s.id → r'.instance? n = r.instance? n) :
    Sound host (calls ++ [.get s]) (r'.insert i) where
  current id n hn := by
    obtain ⟨hsettings, hopen⟩ := Instance.open_of_build hb
    rw [mem_current_insert, hsettings, hcurrent, hlen] at hn
    rw [spoilt_append_get_of_build hb]
    rcases hn with ⟨hn, hne⟩ | ⟨rfl, rfl⟩
    · obtain ⟨j, hj, hid, hclosed⟩ := h.current id n hn
      have hlt : n < r'.made.length := hlen ▸ lt_of_instance? hj
      rw [instance?_insert_of_lt i hlt, hothers id n hn hne]
      exact ⟨j, hj, hid, hclosed⟩
    · have hfresh : ¬ Spoilt host calls r.made.length :=
        fun hs => absurd (h.made _ hs) (Nat.lt_irrefl _)
      refine ⟨i, hlen ▸ instance?_insert_new r' i, by rw [hsettings], ?_⟩
      rw [hopen]
      exact iff_of_false Bool.false_ne_true hfresh
  made n hn := by
    have hlt := h.made n ((spoilt_append_get_of_build hb).mp hn)
    rw [length_made_insert, hlen]
    omega

theorem Sound.spoil (h : Sound host calls (afterAll host calls))
    (hout : (afterAll host calls).Outdated s n) {x : Failure}
    (hx : Instance.build host s = .error x) :
    Sound host (calls ++ [.get s]) ((afterAll host calls).close n) where
  current id m hm := by
    obtain ⟨i, hi, hid, hclosed⟩ := h.current id m hm
    rw [instance?_close, hi, Option.map_some]
    refine ⟨_, rfl, ?_⟩
    by_cases hnm : n = m
    · subst hnm
      rw [if_pos rfl]
      exact ⟨hid, iff_of_true rfl (spoilt_append_get.mpr (.inr ⟨hout, x, hx⟩))⟩
    · have hother : ¬ (afterAll host calls).Outdated s m := by
        intro hm
        exact hnm (Option.some.inj (hout.1.symm.trans hm.1))
      rw [if_neg hnm, spoilt_append_get_of_not_outdated hother]
      exact ⟨hid, hclosed⟩
  made m hm := by
    rw [length_made_close]
    rcases spoilt_append_get.mp hm with hm | ⟨⟨-, i, hi, -⟩, -⟩
    · exact h.made m hm
    · exact lt_of_instance? hi

/-- Asking for an instance keeps the invariant, whether it succeeds or not. -/
theorem Sound.get (h : Sound host calls (afterAll host calls)) (s : Settings) :
    Sound host (calls ++ [.get s]) ((afterAll host calls).get host s).2 := by
  rcases get_cases (afterAll host calls) host s with
    ⟨n, i, hn, hi, hu, hg⟩ | ⟨n, hout, hg⟩ | ⟨hnone, hg⟩
  · rw [hg]
    refine h.keep fun m hm => ?_
    obtain ⟨hcurrent, j, hj, hju⟩ := hm
    obtain rfl := Option.some.inj (hn.symm.trans hcurrent)
    obtain rfl := Option.some.inj (hi.symm.trans hj)
    exact Bool.false_ne_true (hju.symm.trans hu)
  · rw [hg]
    rcases make_cases ((afterAll host calls).close n) host s with ⟨i, hb, hm⟩ | ⟨x, hx, hm⟩
    · rw [hm]
      refine h.insert hb rfl (length_made_close _ n) fun id m hm hne => ?_
      obtain ⟨j, hj, hjid, -⟩ := h.current _ _ (mem_of_current? hout.1)
      obtain ⟨k, hk, hkid, -⟩ := h.current id m hm
      have hnm : n ≠ m := by
        rintro rfl
        obtain rfl := Option.some.inj (hj.symm.trans hk)
        exact hne (hkid.symm.trans hjid)
      rw [instance?_close, hk, Option.map_some, if_neg hnm]
    · rw [hm]
      exact h.spoil hout hx
  · rw [hg]
    rcases make_cases (afterAll host calls) host s with ⟨i, hb, hm⟩ | ⟨x, hx, hm⟩
    · rw [hm]
      exact h.insert hb rfl rfl fun _ _ _ _ => rfl
    · rw [hm]
      refine h.keep fun m hm => ?_
      obtain ⟨hcurrent, j, hj, -⟩ := hm
      rw [hnone m hcurrent] at hj
      cases hj

theorem length_made_closeAll (r : Registry) (cs : List (Int × Nat)) :
    (cs.foldl (fun r c => r.close c.2) r).made.length = r.made.length := by
  induction cs generalizing r with
  | nil => rfl
  | cons c cs ih => rw [List.foldl_cons, ih, length_made_close]

theorem Sound.dispose (h : Sound host calls r) : Sound host (calls ++ [.dispose]) r.dispose where
  current id n hn := by cases hn
  made n hn := by
    rw [spoilt_append_dispose] at hn
    exact (length_made_closeAll r r.current).symm ▸ h.made n hn

/-- After any calls, failing ones among them. -/
theorem sound_afterAll (host : Host) (calls : List Call) :
    Sound host calls (afterAll host calls) :=
  afterAll_induction (.empty host) (fun _ s h => h.get s) (fun _ h => h.dispose) calls

/-! ### Instances that are given out -/

theorem spoilt_append_get_of_get (h : (afterAll host calls).get host s = (.ok n, r')) :
    Spoilt host (calls ++ [.get s]) m ↔ Spoilt host calls m := by
  rw [spoilt_append_get, or_iff_left]
  rintro ⟨hout, x, hx⟩
  rw [get_of_outdated hout, make, hx] at h
  cases h

/-- An instance that is given out belongs to the datasource that was asked for. It is closed exactly
if it was spoilt before; with tokens of the host, these are the instances that cannot make a
request. -/
theorem get_closed_iff (h : (afterAll host calls).get host s = (.ok n, r')) :
    ∃ i, r'.instance? n = some i ∧ i.settings.id = s.id ∧
      (i.closed = true ↔ Spoilt host calls n) ∧
      (i.UsesHostToken → ∀ t m address e, i.addressOf m = .ok address →
        ((∃ request e', (i.prepare t m).runFrom e = (.ok request, e')) ↔
          ¬ Spoilt host calls n)) := by
  have hsound := (sound_afterAll host calls).get s
  rw [h] at hsound
  obtain ⟨i, hi, hid, hclosed⟩ := hsound.current s.id n (current_of_get h).1
  rw [spoilt_append_get_of_get h] at hclosed
  refine ⟨i, hi, hid, hclosed, fun htoken t m address e ha => ?_⟩
  rw [← hclosed, Bool.not_eq_true]
  constructor
  · rintro ⟨request, e', hp⟩
    exact Instance.closed_of_prepare_ok hp
  · intro ho
    exact ⟨_, _, Instance.runFrom_prepare htoken ho t ha e⟩

/-- Settings of a datasource, by the time of their last change. -/
def changedAt (t : Timestamp) (plain : Members Data := []) : Settings :=
  { id := 1, updated := some t, plain := plain }

/-- The start of Unix time on a clock that is an hour ahead. -/
def anHourBefore : Timestamp := .unixStart (some 3600)

/-- Whether the instance with a number is closed, if there is one. -/
def closed? (r : Registry) (n : Nat) : Option Bool := (r.instance? n).map (·.closed)

theorem exists_of_closed? {b : Bool} (h : r.closed? n = some b) :
    ∃ i, r.instance? n = some i ∧ i.closed = b :=
  Option.map_eq_some_iff.mp h

/-- An instance that replaced another one is open when it is given out again. -/
theorem get_closed_iff_replaced :
    let calls : List Call := [.get (changedAt anHourBefore), .get (changedAt (.unixStart (some 0)))]
    ∃ r' i, (afterAll {} calls).get {} (changedAt (.unixStart (some 0))) = (.ok 1, r') ∧
      r'.instance? 1 = some i ∧ i.closed = false ∧ ¬ Spoilt {} calls 1 := by
  intro calls
  have hget : ((afterAll {} calls).get {} (changedAt (.unixStart (some 0)))).1 = .ok 1 := by
    decide +kernel
  have hopen : (((afterAll {} calls).get {} (changedAt (.unixStart (some 0)))).2).closed? 1 =
      some false := by decide +kernel
  rcases h : (afterAll {} calls).get {} (changedAt (.unixStart (some 0))) with ⟨r, r'⟩
  rw [h] at hget hopen
  subst hget
  obtain ⟨i, hi, -, hclosed, -⟩ := get_closed_iff h
  obtain ⟨j, hj, ho⟩ := exists_of_closed? hopen
  obtain rfl := Option.some.inj (hi.symm.trans hj)
  refine ⟨r', i, rfl, hi, ho, fun hs => ?_⟩
  rw [hclosed.mpr hs] at ho
  cases ho

/-- The settings change to some that are of no use, and back. The instance that is given out then
was closed when they changed. -/
theorem get_closed_after_failure :
    let calls : List Call := [.get (changedAt anHourBefore),
      .get (changedAt (.unixStart (some 0)) [("authenticationType", .text "magic")])]
    ∃ r' i, (afterAll {} calls).get {} (changedAt anHourBefore) = (.ok 0, r') ∧
      r'.instance? 0 = some i ∧ i.closed = true := by
  intro calls
  have hget : ((afterAll {} calls).get {} (changedAt anHourBefore)).1 = .ok 0 := by decide +kernel
  have hclosed : (((afterAll {} calls).get {} (changedAt anHourBefore)).2).closed? 0 =
      some true := by decide +kernel
  rcases h : (afterAll {} calls).get {} (changedAt anHourBefore) with ⟨r, r'⟩
  rw [h] at hget hclosed
  subst hget
  obtain ⟨i, hi, hc⟩ := exists_of_closed? hclosed
  exact ⟨r', i, rfl, hi, hc⟩

end MetricFrames.Registry
