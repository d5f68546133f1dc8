import Mathlib.Data.List.Forall2

/-!
# Steps that may fail

A computation in several steps has a value if each of its steps has one, and else it fails as one of
its steps does. The same holds of a
computation for every item of a list.
-/

namespace MetricFrames

variable {ε α β : Type}

theorem exists_of_bind_eq_ok {step : Except ε α} {next : α → Except ε β} {b : β}
    (h : step >>= next = .ok b) : ∃ a, step = .ok a ∧ next a = .ok b := by
  cases step with
  | error x => cases h
  | ok a => exact ⟨a, rfl, h⟩

theorem bind_eq_error_iff {step : Except ε α} {next : α → Except ε β} {x : ε} :
    step >>= next = .error x ↔ step = .error x ∨ ∃ a, step = .ok a ∧ next a = .error x := by
  constructor
  · intro h
    cases step with
    | error y =>
      cases h
      exact .inl rfl
    | ok a => exact .inr ⟨a, rfl, h⟩
  · rintro (rfl | ⟨a, rfl, h⟩)
    · rfl
    · exact h

theorem cases_of_bind_eq_error {step : Except ε α} {next : α → Except ε β} {x : ε}
    (h : step >>= next = .error x) :
    step = .error x ∨ ∃ a, step = .ok a ∧ next a = .error x := bind_eq_error_iff.mp h

theorem map_eq_error_iff {step : Except ε α} {f : α → β} {x : ε} :
    step.map f = .error x ↔ step = .error x := by
  cases step <;> simp [Except.map]

theorem eq_error_of_map_eq_error {step : Except ε α} {f : α → β} {x : ε}
    (h : step.map f = .error x) : step = .error x := map_eq_error_iff.mp h

theorem exists_of_map_eq_ok {step : Except ε α} {f : α → β} {b : β} (h : step.map f = .ok b) :
    ∃ a, step = .ok a ∧ f a = b := by
  cases step with
  | error x => cases h
  | ok a => exact ⟨a, rfl, Except.ok.inj h⟩

theorem mapError_eq_ok_iff {ε' : Type} {f : ε → ε'} {step : Except ε α} {a : α} :
    step.mapError f = .ok a ↔ step = .ok a := by
  cases step <;> simp [Except.mapError]

theorem mapError_eq_error_iff {ε' : Type} {f : ε → ε'} {step : Except ε α} {x : ε'} :
    step.mapError f = .error x ↔ ∃ y, step = .error y ∧ f y = x := by
  cases step <;> simp [Except.mapError]

theorem mapM_eq_ok_iff (step : α → Except ε β) (xs : List α) (ys : List β) :
    xs.mapM step = .ok ys ↔ List.Forall₂ (fun x y => step x = .ok y) xs ys := by
  induction xs generalizing ys with
  | nil =>
    rw [List.mapM_nil, List.forall₂_nil_left_iff]
    exact ⟨fun h => (Except.ok.inj h).symm, fun h => congrArg _ h.symm⟩
  | cons x xs ih =>
    rw [List.mapM_cons, List.forall₂_cons_left_iff]
    constructor
    · intro h
      obtain ⟨y, hy, h⟩ := exists_of_bind_eq_ok h
      obtain ⟨rest, hr, h⟩ := exists_of_bind_eq_ok h
      exact ⟨y, rest, hy, (ih rest).mp hr, (Except.ok.inj h).symm⟩
    · rintro ⟨y, rest, hy, hr, rfl⟩
      rw [hy, (ih rest).mpr hr]
      rfl

theorem exists_of_toBool {step : Except ε α} (h : step.toBool = true) : ∃ a, step = .ok a := by
  cases step with
  | error x => cases h
  | ok a => exact ⟨a, rfl⟩

theorem eq_ok_of_toOption {step : Except ε α} {a : α} (h : step.toOption = some a) :
    step = .ok a := by
  cases step with
  | error x => cases h
  | ok b => exact congrArg Except.ok (Option.some.inj h)

theorem exists_of_mapM_eq_error {step : α → Except ε β} {xs : List α} {e : ε}
    (h : xs.mapM step = .error e) : ∃ x ∈ xs, step x = .error e := by
  induction xs with
  | nil => cases h
  | cons x xs ih =>
    rw [List.mapM_cons] at h
    rcases cases_of_bind_eq_error h with h | ⟨y, -, h⟩
    · exact ⟨x, List.mem_cons_self, h⟩
    · rcases cases_of_bind_eq_error h with h | ⟨rest, -, h⟩
      · obtain ⟨z, hz, h⟩ := ih h
        exact ⟨z, List.mem_cons_of_mem x hz, h⟩
      · cases h

/-- The first item that has no value decides how a list fails. -/
theorem mapM_eq_error_iff {step : α → Except ε β} {xs : List α} {e : ε} :
    xs.mapM step = .error e ↔ ∃ before x after, xs = before ++ x :: after ∧
      (∀ y ∈ before, ∃ z, step y = .ok z) ∧ step x = .error e := by
  induction xs with
  | nil =>
    refine iff_of_false (by rintro ⟨⟩) ?_
    rintro ⟨before, x, after, h, -⟩
    cases before <;> cases h
  | cons x xs ih =>
    rw [List.mapM_cons, bind_eq_error_iff]
    constructor
    · rintro (h | ⟨y, hy, h⟩)
      · exact ⟨[], x, xs, rfl, by simp, h⟩
      · rcases cases_of_bind_eq_error h with h | ⟨rest, -, h⟩
        · obtain ⟨before, z, after, rfl, hbefore, hz⟩ := ih.mp h
          exact ⟨x :: before, z, after, rfl, List.forall_mem_cons.mpr ⟨⟨y, hy⟩, hbefore⟩, hz⟩
        · cases h
    · rintro ⟨before, z, after, h, hbefore, hz⟩
      cases before with
      | nil =>
        cases h
        exact .inl hz
      | cons w before =>
        cases h
        obtain ⟨⟨y, hy⟩, hbefore⟩ := List.forall_mem_cons.mp hbefore
        refine .inr ⟨y, hy, ?_⟩
        rw [ih.mpr ⟨before, z, after, rfl, hbefore, hz⟩]
        rfl

theorem exists_mapM_eq_ok {step : α → Except ε β} {xs : List α}
    (h : ∀ x ∈ xs, ∃ y, step x = .ok y) : ∃ ys, xs.mapM step = .ok ys := by
  cases hxs : xs.mapM step with
  | ok ys => exact ⟨ys, rfl⟩
  | error e =>
    obtain ⟨x, hx, he⟩ := exists_of_mapM_eq_error hxs
    obtain ⟨y, hy⟩ := h x hx
    rw [he] at hy
    cases hy

theorem exists_of_forall₂_getElem? {R : α → β → Prop} {xs : List α} {ys : List β}
    (h : List.Forall₂ R xs ys) {n : Nat} {x : α} (hx : xs[n]? = some x) :
    ∃ y, ys[n]? = some y ∧ R x y := by
  induction h generalizing n with
  | nil => cases hx
  | @cons a b xs ys hab _ ih =>
    cases n with
    | zero =>
      cases hx
      exact ⟨b, rfl, hab⟩
    | succ n => exact ih hx

/-- Lists that are related item by item are split at corresponding items. -/
theorem exists_of_forall₂_append_cons {R : α → β → Prop} {before after : List α} {x : α}
    {ys : List β} (h : List.Forall₂ R (before ++ x :: after) ys) :
    ∃ before' y after', ys = before' ++ y :: after' ∧ List.Forall₂ R before before' ∧ R x y ∧
      List.Forall₂ R after after' := by
  induction before generalizing ys with
  | nil =>
    obtain ⟨y, after', hy, hafter, rfl⟩ := List.forall₂_cons_left_iff.mp h
    exact ⟨[], y, after', rfl, .nil, hy, hafter⟩
  | cons z before ih =>
    obtain ⟨w, rest, hw, hrest, rfl⟩ := List.forall₂_cons_left_iff.mp h
    obtain ⟨before', y, after', rfl, hbefore, hy, hafter⟩ := ih hrest
    exact ⟨w :: before', y, after', rfl, .cons hw hbefore, hy, hafter⟩

end MetricFrames
