import MetricFrames.Datasource.Registry

/-!
# What the registry does

Closing an instance changes nothing but that instance, and a new instance is added behind all
others, open and as the current one of its datasource. Asking for the instance of some settings
either keeps the registry or makes a new instance, perhaps after the outdated one was closed
(`get_cases`).
-/

namespace MetricFrames

theorem Instance.open_of_build {host : Host} {s : Settings} {i : Instance}
    (h : build host s = .ok i) : i.settings = s ∧ i.closed = false := by
  simp only [build] at h
  split at h
  · cases h
  · split at h
    · cases h
    · split at h
      · cases h
      · cases h
        exact ⟨rfl, rfl⟩

namespace Registry

variable {host : Host} {r r' : Registry} {s : Settings} {i : Instance} {m n : Nat}

/-! ### Instances -/

theorem lt_of_instance? (h : r.instance? n = some i) : n < r.made.length :=
  (List.getElem?_eq_some_iff.mp h).1

theorem mem_of_current? {id : Int} (h : r.current? id = some n) : (id, n) ∈ r.current := by
  rw [current?, Option.map_eq_some_iff] at h
  obtain ⟨c, hc, rfl⟩ := h
  have hid : c.1 = id := by simpa using List.find?_some hc
  rw [← hid]
  exact List.mem_of_find?_eq_some hc

theorem instance?_close (r : Registry) (n m : Nat) :
    (r.close n).instance? m =
      (r.instance? m).map fun i => if n = m then { i with closed := true } else i :=
  List.getElem?_modify ..

theorem length_made_close (r : Registry) (n : Nat) :
    (r.close n).made.length = r.made.length := List.length_modify ..

theorem instance?_insert_of_lt (i : Instance) (h : m < r.made.length) :
    (r.insert i).instance? m = r.instance? m := List.getElem?_append_left h

theorem instance?_insert_new (r : Registry) (i : Instance) :
    (r.insert i).instance? r.made.length = some i := List.getElem?_concat_length

theorem length_made_insert (r : Registry) (i : Instance) :
    (r.insert i).made.length = r.made.length + 1 := List.length_append

/-- The instances after one was added: those there were, and that one. -/
theorem cases_of_instance?_insert {j : Instance} (h : (r.insert i).instance? n = some j) :
    r.instance? n = some j ∨ n = r.made.length ∧ j = i := by
  have hlt : n < (r.insert i).made.length := lt_of_instance? h
  rw [length_made_insert] at hlt
  by_cases hn : n < r.made.length
  · rw [instance?_insert_of_lt i hn] at h
    exact .inl h
  · obtain rfl : n = r.made.length := by omega
    rw [instance?_insert_new] at h
    exact .inr ⟨rfl, (Option.some.inj h).symm⟩

/-- The current instances after one was added: that one, and those of other datasources. -/
theorem mem_current_insert {id : Int} : (id, n) ∈ (r.insert i).current ↔
    (id, n) ∈ r.current ∧ id ≠ i.settings.id ∨ id = i.settings.id ∧ n = r.made.length := by
  simp [insert]

/-! ### Asking for an instance -/

theorem make_cases (r : Registry) (host : Host) (s : Settings) :
    (∃ i, Instance.build host s = .ok i ∧ r.make host s = (.ok r.made.length, r.insert i)) ∨
      ∃ x, Instance.build host s = .error x ∧ r.make host s = (.error x, r) := by
  rw [make]
  cases Instance.build host s with
  | ok i => exact .inl ⟨i, rfl, rfl⟩
  | error x => exact .inr ⟨x, rfl, rfl⟩

/-- The current instance of a datasource was made from settings that have changed since. -/
def Outdated (r : Registry) (s : Settings) (n : Nat) : Prop :=
  r.current? s.id = some n ∧
    ∃ i, r.instance? n = some i ∧ sameUpdate i.settings.updated s.updated = false

theorem get_of_outdated (h : r.Outdated s n) (host : Host) :
    r.get host s = (r.close n).make host s := by
  obtain ⟨hn, i, hi, hu⟩ := h
  simp only [get, hn, hi, hu]
  rfl

/-- Asking for an instance finds an up-to-date one, an outdated one that is closed first, or
none. -/
theorem get_cases (r : Registry) (host : Host) (s : Settings) :
    (∃ n i, r.current? s.id = some n ∧ r.instance? n = some i ∧
        sameUpdate i.settings.updated s.updated = true ∧ r.get host s = (.ok n, r)) ∨
      (∃ n, r.Outdated s n ∧ r.get host s = (r.close n).make host s) ∨
      (∀ n, r.current? s.id = some n → r.instance? n = none) ∧ r.get host s = r.make host s := by
  cases hn : r.current? s.id with
  | none => exact .inr (.inr ⟨fun n h => (by cases h), by simp only [get, hn]⟩)
  | some n =>
    cases hi : r.instance? n with
    | none =>
      refine .inr (.inr ⟨fun m hm => ?_, by simp only [get, hn, hi]⟩)
      cases hm
      exact hi
    | some i =>
      cases hu : sameUpdate i.settings.updated s.updated with
      | true => exact .inl ⟨n, i, rfl, hi, hu, by simp only [get, hn, hi, hu, if_true]⟩
      | false =>
        have hout : r.Outdated s n := ⟨hn, i, hi, hu⟩
        exact .inr (.inl ⟨n, hout, get_of_outdated hout host⟩)

/-- An instance that is given out is the current one and up to date, or it was just made. -/
theorem cases_of_get_ok (h : r.get host s = (.ok n, r')) :
    (r' = r ∧ r.current? s.id = some n ∧
        ∃ i, r.instance? n = some i ∧ sameUpdate i.settings.updated s.updated = true) ∨
      ∃ (r₀ : Registry) (i : Instance), Instance.build host s = .ok i ∧
        n = r₀.made.length ∧ r' = r₀.insert i := by
  have hmake : ∀ r₀ : Registry, r₀.make host s = (.ok n, r') →
      ∃ (r₀ : Registry) (i : Instance), Instance.build host s = .ok i ∧
        n = r₀.made.length ∧ r' = r₀.insert i := by
    intro r₀ h
    rcases make_cases r₀ host s with ⟨i, hb, hm⟩ | ⟨x, -, hm⟩
    · rw [hm] at h
      cases h
      exact ⟨r₀, i, hb, rfl, rfl⟩
    · rw [hm] at h
      cases h
  rcases get_cases r host s with ⟨k, i, hk, hi, hu, hg⟩ | ⟨k, -, hg⟩ | ⟨-, hg⟩
  · rw [hg] at h
    cases h
    exact .inl ⟨rfl, hk, i, hi, hu⟩
  · exact .inr (hmake _ (hg.symm.trans h))
  · exact .inr (hmake _ (hg.symm.trans h))

/-- The number that is given out is that of the current instance of the datasource. -/
theorem current_of_get (h : r.get host s = (.ok n, r')) :
    (s.id, n) ∈ r'.current ∧ ∃ i, r'.instance? n = some i := by
  rcases cases_of_get_ok h with ⟨rfl, hn, i, hi, -⟩ | ⟨r₀, i, hb, rfl, rfl⟩
  · exact ⟨mem_of_current? hn, i, hi⟩
  · rw [mem_current_insert, (Instance.open_of_build hb).1]
    exact ⟨.inr ⟨rfl, rfl⟩, i, instance?_insert_new r₀ i⟩

end Registry
end MetricFrames
