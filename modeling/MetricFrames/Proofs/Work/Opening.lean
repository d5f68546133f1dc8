import MetricFrames.Proofs.Work.Quiet

/-!
# What work starts with

Work opens with certain requests if it sends nothing before the first one of them; it may fail
before, but it does not come to a value without a request (`Opens`). Quiet work may stand before it
(`Opens.after_quiet`), and what stands behind it makes no difference, as work takes nothing back of
what was sent (`Grows`, `Opens.bind`).
-/

namespace MetricFrames.Work

variable {α β : Type} {s : Surroundings} {e : Exchange}

/-- All is still there that was sent before the work. -/
def Grows (work : Work α) : Prop := ∀ e, e.sent <+: (work.runFrom e).2.sent

namespace Grows

variable {work : Work α} {next : α → Work β}

theorem of_quiet (h : Quiet work) : Grows work := fun e => (h e).symm ▸ List.prefix_refl e.sent

theorem sendToService (s : Surroundings) (request : Web.Request) :
    Grows (Work.sendToService s request) := fun e => List.prefix_append e.sent [request]

/-- What follows some work takes nothing back of what that has sent. -/
theorem after (hn : ∀ a, Grows (next a)) (e : Exchange) :
    (work.runFrom e).2.sent <+: ((work >>= next).runFrom e).2.sent := by
  rw [runFrom_bind]
  rcases work.runFrom e with ⟨x | a, e'⟩
  · exact List.prefix_refl _
  · exact hn a e'

theorem bind (hw : Grows work) (hn : ∀ a, Grows (next a)) : Grows (work >>= next) :=
  fun e => (hw e).trans (after hn e)

end Grows

/-- Work that fails before it sends anything, or sends a request with a property first. -/
def Opens (P : Web.Request → Prop) (work : Work α) : Prop :=
  ∀ e, (∃ x e', work.runFrom e = (.error x, e') ∧ e'.sent = e.sent) ∨
    ∃ request, P request ∧ e.sent ++ [request] <+: (work.runFrom e).2.sent

namespace Opens

variable {P : Web.Request → Prop} {work : Work α} {next : α → Work β}

theorem sendToService (s : Surroundings) {request : Web.Request} (h : P request) :
    Opens P (Work.sendToService s request) := fun _ => .inr ⟨request, h, List.prefix_refl _⟩

theorem bind (hw : Opens P work) (hn : ∀ a, Grows (next a)) : Opens P (work >>= next) := by
  intro e
  rcases hw e with ⟨x, e', h, hsent⟩ | ⟨request, hrequest, hsent⟩
  · exact .inl ⟨x, e', runFrom_bind_error h, hsent⟩
  · exact .inr ⟨request, hrequest, hsent.trans (Grows.after hn e)⟩

theorem after_quiet (hw : Quiet work)
    (hn : ∀ e a e', work.runFrom e = (.ok a, e') → Opens P (next a)) :
    Opens P (work >>= next) := by
  intro e
  have hsent := hw e
  rcases h : work.runFrom e with ⟨x | a, e'⟩
  · rw [h] at hsent
    exact .inl ⟨x, e', runFrom_bind_error h, hsent⟩
  · rw [h] at hsent
    rw [runFrom_bind_ok h, ← hsent]
    exact hn e a e' h e'

/-- The first request of the work has the property. -/
theorem first (hw : Opens P work) {request : Web.Request} {later : List Web.Request}
    (h : (work.runFrom e).2.sent = e.sent ++ request :: later) : P request := by
  rcases hw e with ⟨x, e', hrun, hsent⟩ | ⟨first, hfirst, hsent⟩
  · rw [hrun] at h
    simp [hsent] at h
  · rw [h, List.prefix_append_right_inj, List.cons_prefix_cons] at hsent
    exact hsent.1 ▸ hfirst

end Opens
end MetricFrames.Work
