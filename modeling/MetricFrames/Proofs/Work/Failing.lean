import MetricFrames.Proofs.Work.Running

/-!
# How work may fail

Work fails only in certain ways if, from every record, whatever ends it is a failure of that class.
Parts that are put together fail as the parts do; a failure that is turned into another one counts
as what it was turned into.
-/

namespace MetricFrames

/-- Failures of the credentials of a machine: problems with them, and faults. -/
def Failure.ofCredentials : Failure → Bool
  | .credentials _ | .fault _ => true
  | _ => false

/-- Failures of a plan that runs: problems of its query, cancellations and faults. -/
def Failure.ofRun : Failure → Bool
  | .query _ | .cancelled _ | .fault _ => true
  | _ => false

namespace Failure

variable {x : Failure}

theorem cases_of_ofCredentials (h : x.ofCredentials = true) :
    (∃ problem, x = .credentials problem) ∨ ∃ f, x = .fault f := by
  cases x with
  | credentials problem => exact .inl ⟨problem, rfl⟩
  | fault f => exact .inr ⟨f, rfl⟩
  | batch problem => cases h
  | cancelled point => cases h
  | query problem => cases h

theorem cases_of_ofRun (h : x.ofRun = true) :
    (∃ problem, x = .query problem) ∨ (∃ point, x = .cancelled point) ∨ ∃ f, x = .fault f := by
  cases x with
  | query problem => exact .inl ⟨problem, rfl⟩
  | cancelled point => exact .inr (.inl ⟨point, rfl⟩)
  | fault f => exact .inr (.inr ⟨f, rfl⟩)
  | batch problem => cases h
  | credentials problem => cases h

end Failure

namespace Work

variable {α β : Type} {P Q : Failure → Bool}

/-- Whatever ends the work is a failure of the class `P`. -/
def FailsOnly (P : Failure → Bool) (work : Work α) : Prop :=
  ∀ e x, (work.runFrom e).1 = .error x → P x = true

namespace FailsOnly

theorem pure (a : α) : FailsOnly P (Pure.pure a : Work α) := by
  intro e x h
  cases h

theorem get : FailsOnly P (MonadState.get : Work Exchange) := by
  intro e x h
  cases h

theorem throw {x : Failure} (hx : P x = true) : FailsOnly P (MonadExcept.throw x : Work α) := by
  intro e y h
  cases h
  exact hx

theorem bind {work : Work α} {next : α → Work β} (hw : FailsOnly P work)
    (hn : ∀ a, FailsOnly P (next a)) : FailsOnly P (work >>= next) := by
  intro e x h
  rw [runFrom_bind] at h
  have hwork := hw e
  rcases hr : work.runFrom e with ⟨y | a, e'⟩
  · rw [hr] at h hwork
    cases h
    exact hwork x rfl
  · rw [hr] at h
    exact hn a e' x h

theorem map (f : α → β) {work : Work α} (hw : FailsOnly P work) : FailsOnly P (f <$> work) := by
  rw [map_eq_pure_bind]
  exact .bind hw fun a => .pure (f a)

/-- Work behind a check. -/
theorem guard {c : Prop} [Decidable c] {x : Failure} {rest : Work α} (hx : P x = true)
    (hrest : FailsOnly P rest) :
    FailsOnly P (if c then MonadExcept.throw x >>= fun (_ : PUnit) => rest else rest) := by
  split
  · exact .bind (.throw hx) fun _ => hrest
  · exact hrest

theorem tryCatch {work : Work α} {handle : Failure → Work α} (hw : FailsOnly P work)
    (hh : ∀ x, P x = true → FailsOnly Q (handle x)) :
    FailsOnly Q (MonadExcept.tryCatch work handle) := by
  intro e x h
  rw [runFrom_tryCatch] at h
  have hwork := hw e
  rcases hr : work.runFrom e with ⟨y | a, e'⟩
  · rw [hr] at h hwork
    exact hh y (hwork y rfl) e' x h
  · rw [hr] at h
    cases h

theorem mapFailure {change : Failure → Failure} (hchange : ∀ x, P x = true → Q (change x) = true)
    {work : Work α} (hw : FailsOnly P work) : FailsOnly Q (Work.mapFailure change work) :=
  .tryCatch hw fun x hx => .throw (hchange x hx)

theorem ofFault (hP : ∀ f, P (.fault f) = true) :
    ∀ r : Except Fault α, FailsOnly P (Work.ofFault r)
  | .ok a => pure a
  | .error f => throw (hP f)

end FailsOnly
end Work
end MetricFrames
