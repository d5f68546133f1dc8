import MetricFrames.Proofs.Work.Running

/-!
# Quiet work

Work is quiet if it sends nothing to the service, whatever it comes to.
-/

namespace MetricFrames

namespace Work

variable {α β : Type}

/-- The requests to the service are the same before and after. -/
def Quiet (work : Work α) : Prop := ∀ e, (work.runFrom e).2.sent = e.sent

namespace Quiet

theorem pure (a : α) : Quiet (Pure.pure a : Work α) := fun _ => rfl

theorem throw (x : Failure) : Quiet (MonadExcept.throw x : Work α) := fun _ => rfl

theorem get : Quiet (MonadState.get : Work Exchange) := fun _ => rfl

theorem bind {work : Work α} {next : α → Work β} (hw : Quiet work) (hn : ∀ a, Quiet (next a)) :
    Quiet (work >>= next) := by
  intro e
  have he := hw e
  rcases h : work.runFrom e with ⟨x | a, e'⟩
  · rw [runFrom_bind_error h]
    rwa [h] at he
  · rw [h] at he
    rw [runFrom_bind_ok h, hn a e', he]

theorem mapFailure (change : Failure → Failure) {work : Work α} (hw : Quiet work) :
    Quiet (Work.mapFailure change work) := by
  intro e
  rw [runFrom_mapFailure]
  exact hw e

theorem ofFault : ∀ r : Except Fault α, Quiet (Work.ofFault r)
  | .ok a => pure a
  | .error f => throw (.fault f)

theorem checkCancelled (s : Surroundings) (point : CancelPoint) :
    Quiet (Work.checkCancelled s point) := by
  intro e
  rw [runFrom_checkCancelled]

theorem sendToMetadata (s : Surroundings) (request : Web.Request) :
    Quiet (Work.sendToMetadata s request) := fun _ => rfl

end Quiet
end Work
end MetricFrames
