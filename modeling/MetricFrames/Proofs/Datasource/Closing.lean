import MetricFrames.Proofs.Datasource.Lifetime

/-!
# Instances that are closed

Every instance that a registry ever made is either the current one of its datasource or closed, so
no datasource has two open ones, and nothing is open once the registry was disposed of
(`closed_unless_current`). A call forgets no instance and changes none but by closing it
(`Extends`).
-/

namespace MetricFrames.Registry

variable {host : Host} {r r' r'' : Registry} {s : Settings} {i j : Instance} {m n : Nat}

/-! ### What calls keep -/

/-- All instances of a registry are still there in another one; at most they were closed. -/
def Extends (r r' : Registry) : Prop :=
  ∀ n i, r.instance? n = some i → ∃ j, r'.instance? n = some j ∧
    j = { i with closed := j.closed } ∧ (i.closed = true → j.closed = true)

theorem Extends.refl (r : Registry) : r.Extends r := fun _ i hi => ⟨i, hi, rfl, id⟩

theorem Extends.trans (h : r.Extends r') (h' : r'.Extends r'') : r.Extends r'' := by
  intro n i hi
  obtain ⟨j, hj, hij, hclosed⟩ := h n i hi
  obtain ⟨k, hk, hjk, hclosed'⟩ := h' n j hj
  refine ⟨k, hk, ?_, fun hc => hclosed' (hclosed hc)⟩
  rw [hjk, hij]

/-- What an instance was before, if none was made in between. -/
theorem Extends.exists_before (h : r.Extends r') (hlen : r'.made.length = r.made.length)
    (hj : r'.instance? n = some j) : ∃ i, r.instance? n = some i ∧
      j = { i with closed := j.closed } ∧ (i.closed = true → j.closed = true) := by
  have hn : n < r.made.length := by
    rw [← hlen]
    exact lt_of_instance? hj
  obtain ⟨i, hi⟩ : ∃ i, r.instance? n = some i := ⟨_, List.getElem?_eq_getElem hn⟩
  obtain ⟨k, hk, hik, hclosed⟩ := h n i hi
  obtain rfl : j = k := Option.some.inj (hj.symm.trans hk)
  exact ⟨i, hi, hik, hclosed⟩

theorem extends_close (r : Registry) (n : Nat) : r.Extends (r.close n) := by
  intro m i hi
  rw [instance?_close, hi, Option.map_some]
  by_cases hnm : n = m
  · rw [if_pos hnm]
    exact ⟨_, rfl, rfl, fun _ => rfl⟩
  · rw [if_neg hnm]
    exact ⟨i, rfl, rfl, id⟩

theorem extends_insert (r : Registry) (i : Instance) : r.Extends (r.insert i) := by
  intro n j hj
  have hn : n < r.made.length := lt_of_instance? hj
  rw [instance?_insert_of_lt i hn]
  exact ⟨j, hj, rfl, id⟩

theorem extends_make (r : Registry) (host : Host) (s : Settings) :
    r.Extends (r.make host s).2 := by
  rcases make_cases r host s with ⟨i, -, hm⟩ | ⟨x, -, hm⟩
  · rw [hm]
    exact extends_insert r i
  · rw [hm]
    exact .refl r

theorem extends_closeAll (r : Registry) (cs : List (Int × Nat)) :
    r.Extends (cs.foldl (fun r c => r.close c.2) r) := by
  induction cs generalizing r with
  | nil => exact .refl r
  | cons c cs ih => exact (extends_close r c.2).trans (ih _)

theorem extends_dispose (r : Registry) : r.Extends r.dispose := extends_closeAll r r.current

theorem extends_get (r : Registry) (host : Host) (s : Settings) :
    r.Extends (r.get host s).2 := by
  rcases get_cases r host s with ⟨n, i, -, -, -, hg⟩ | ⟨n, -, hg⟩ | ⟨-, hg⟩
  · rw [hg]
    exact .refl r
  · rw [hg]
    exact (extends_close r n).trans (extends_make _ host s)
  · rw [hg]
    exact extends_make r host s

theorem extends_after (host : Host) (r : Registry) (c : Call) : r.Extends (after host r c) := by
  cases c with
  | get s => exact extends_get r host s
  | dispose => exact extends_dispose r

/-- What was made during the first of some calls is there after all of them. -/
theorem extends_afterAll (host : Host) (before rest : List Call) :
    (afterAll host before).Extends (afterAll host (before ++ rest)) := by
  induction rest using List.reverseRecOn with
  | nil =>
    rw [List.append_nil]
    exact .refl _
  | append_singleton rest c ih =>
    rw [← List.append_assoc, afterAll_append_singleton]
    exact ih.trans (extends_after host _ c)

/-! ### The current instance -/

theorem current?_insert (r : Registry) (i : Instance) (id : Int) :
    (r.insert i).current? id =
      if id = i.settings.id then some r.made.length else r.current? id := by
  have hothers : (r.current.filter fun c => c.1 != i.settings.id).find? (fun c => c.1 == id) =
      if id = i.settings.id then none else r.current.find? fun c => c.1 == id := by
    rw [List.find?_filter]
    by_cases h : id = i.settings.id
    · rw [if_pos h, List.find?_eq_none]
      intro c _
      simp [h]
    · rw [if_neg h]
      congr 1
      funext c
      by_cases hc : c.1 = id <;> simp [hc, h]
  simp only [current?, insert, List.find?_append, hothers]
  by_cases h : id = i.settings.id
  · simp [h]
  · simp [h, Ne.symm h]

/-! ### The invariant -/

/-- Every instance is the current one of its datasource, or it is closed. -/
def Tight (r : Registry) : Prop :=
  ∀ n i, r.instance? n = some i → r.current? i.settings.id ≠ some n → i.closed = true

theorem Tight.empty : Tight {} := by
  intro n i hi
  cases hi

theorem Tight.close (h : Tight r) (n : Nat) : Tight (r.close n) := by
  intro m j hj hcurrent
  rw [instance?_close, Option.map_eq_some_iff] at hj
  obtain ⟨i, hi, rfl⟩ := hj
  by_cases hnm : n = m
  · rw [if_pos hnm]
  · rw [if_neg hnm] at hcurrent ⊢
    exact h m i hi hcurrent

/-- A new instance may take the place of one that is closed. -/
theorem Tight.insert (h : Tight r) (hold : ∀ n j, r.current? i.settings.id = some n →
    r.instance? n = some j → j.closed = true) : Tight (r.insert i) := by
  intro n j hj hcurrent
  rw [current?_insert] at hcurrent
  rcases cases_of_instance?_insert hj with hj | ⟨rfl, rfl⟩
  · by_cases hid : j.settings.id = i.settings.id
    · by_cases hwas : r.current? i.settings.id = some n
      · exact hold n j hwas hj
      · exact h n j hj (by rwa [hid])
    · rw [if_neg hid] at hcurrent
      exact h n j hj hcurrent
  · rw [if_pos rfl] at hcurrent
    exact absurd rfl hcurrent

theorem Tight.make (h : Tight r) (hold : ∀ n j, r.current? s.id = some n →
    r.instance? n = some j → j.closed = true) : Tight (r.make host s).2 := by
  rcases make_cases r host s with ⟨i, hb, hm⟩ | ⟨x, -, hm⟩
  · rw [hm]
    apply h.insert
    rw [(Instance.open_of_build hb).1]
    exact hold
  · rw [hm]
    exact h

theorem Tight.get (h : Tight r) (host : Host) (s : Settings) : Tight (r.get host s).2 := by
  rcases get_cases r host s with ⟨n, i, -, -, -, hg⟩ | ⟨n, hout, hg⟩ | ⟨hnone, hg⟩
  · rw [hg]
    exact h
  · rw [hg]
    apply (h.close n).make
    intro m j hm hj
    obtain rfl : n = m := Option.some.inj (hout.1.symm.trans hm)
    rw [instance?_close, Option.map_eq_some_iff] at hj
    obtain ⟨i, -, rfl⟩ := hj
    rw [if_pos rfl]
  · rw [hg]
    apply h.make
    intro n j hn hj
    rw [hnone n hn] at hj
    cases hj

theorem closed_of_mem_closeAll {cs : List (Int × Nat)} {id : Int} (hc : (id, n) ∈ cs)
    (hj : (cs.foldl (fun r c => r.close c.2) r).instance? n = some j) : j.closed = true := by
  induction cs generalizing r with
  | nil => cases hc
  | cons c cs ih =>
    rw [List.foldl_cons] at hj
    rcases List.mem_cons.mp hc with rfl | hc
    · obtain ⟨i, hi, -, hclosed⟩ := (extends_closeAll (r.close n) cs).exists_before
        (length_made_closeAll (r.close n) cs) hj
      rw [instance?_close, Option.map_eq_some_iff] at hi
      obtain ⟨i, -, rfl⟩ := hi
      rw [if_pos rfl] at hclosed
      exact hclosed rfl
    · exact ih hc hj

theorem Tight.closed_of_dispose (h : Tight r) (hj : r.dispose.instance? n = some j) :
    j.closed = true := by
  obtain ⟨i, hi, -, hclosed⟩ :=
    (extends_dispose r).exists_before (length_made_closeAll r r.current) hj
  by_cases hcurrent : r.current? i.settings.id = some n
  · exact closed_of_mem_closeAll (mem_of_current? hcurrent) hj
  · exact hclosed (h n i hi hcurrent)

theorem tight_afterAll (host : Host) (calls : List Call) : Tight (afterAll host calls) :=
  afterAll_induction (motive := fun _ r => Tight r) .empty (fun _ s h => h.get host s)
    (fun _ h _ _ hj _ => h.closed_of_dispose hj) calls

/-- After any calls, every instance ever made is closed unless it is the current one of its
datasource, which has at most one that is open. After a disposal all are closed, and none is
current. -/
theorem closed_unless_current (host : Host) (calls : List Call) :
    let r := afterAll host calls
    (∀ before, before <+: calls → (afterAll host before).Extends r) ∧
    (∀ n i, r.instance? n = some i → r.current? i.settings.id ≠ some n → i.closed = true) ∧
    (∀ m n i j, r.instance? m = some i → r.instance? n = some j →
      i.settings.id = j.settings.id → i.closed = false → j.closed = false → m = n) ∧
    r.Extends r.dispose ∧ (∀ n i, r.dispose.instance? n = some i → i.closed = true) ∧
    r.dispose.current = [] := by
  intro r
  have htight : Tight r := tight_afterAll host calls
  have hcurrent : ∀ n i, r.instance? n = some i → i.closed = false →
      r.current? i.settings.id = some n := by
    intro n i hi ho
    by_contra hn
    rw [htight n i hi hn] at ho
    cases ho
  refine ⟨?_, htight, ?_, extends_dispose r, fun n i => htight.closed_of_dispose, rfl⟩
  · rintro before ⟨rest, rfl⟩
    exact extends_afterAll host before rest
  · intro m n i j hi hj hid hio hjo
    have hm := hcurrent m i hi hio
    have hn := hcurrent n j hj hjo
    rw [hid, hn] at hm
    exact (Option.some.inj hm).symm

end MetricFrames.Registry
