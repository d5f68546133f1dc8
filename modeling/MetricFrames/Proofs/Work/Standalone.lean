import MetricFrames.Proofs.Work.Running

/-!
# Standalone work

Work stands alone if it makes no difference to it what was exchanged before: from every record it
has the same outcome, and it adds the same requests to the service and nothing else. Work that is
composed of standalone parts stands alone, so two pieces of such work cannot disturb each other
(`Standalone.bind`, `Standalone.tryCatch`). Requests to a service whose answers do not depend on
earlier requests are the basic case.
-/

namespace MetricFrames

/-- Surroundings in which the service answers as `api` does and nothing is cancelled. -/
def Surroundings.answering (api : Web.Request → Web.Answer) : Surroundings where
  service := fun _ => api
  metadata := fun _ _ => .failed ""
  metadataAddress := ""
  now := .zero false

/-- The record with more requests to the service. -/
def Exchange.adding (e : Exchange) (requests : List Web.Request) : Exchange :=
  { e with sent := e.sent ++ requests }

@[simp] theorem Exchange.adding_nil (e : Exchange) : e.adding [] = e := by
  simp [Exchange.adding]

@[simp] theorem Exchange.adding_adding (e : Exchange) (first second : List Web.Request) :
    (e.adding first).adding second = e.adding (first ++ second) := by
  simp [Exchange.adding]

namespace Work

variable {α β : Type}

/-- What work comes to if nothing was exchanged before. -/
def outcome (work : Work α) : Except Failure α := (work.runFrom {}).1

/-- The requests that work sends to the service if nothing was exchanged before. -/
def requests (work : Work α) : List Web.Request := (work.runFrom {}).2.sent

/-- From every record the outcome and the requests are those without one. -/
def Standalone (work : Work α) : Prop :=
  ∀ e, work.runFrom e = (work.outcome, e.adding work.requests)

namespace Standalone

/-- Any outcome and any requests that serve all records will do. -/
theorem of_runFrom {work : Work α} (outcome : Except Failure α) (requests : List Web.Request)
    (h : ∀ e, work.runFrom e = (outcome, e.adding requests)) : Standalone work := by
  intro e
  have ho : work.outcome = outcome := by rw [Work.outcome, h]
  have hr : work.requests = requests := by
    rw [Work.requests, h]
    exact List.nil_append requests
  rw [ho, hr]
  exact h e

theorem pure (a : α) : Standalone (Pure.pure a : Work α) :=
  of_runFrom (.ok a) [] fun e => by simp

theorem throw (x : Failure) : Standalone (MonadExcept.throw x : Work α) :=
  of_runFrom (.error x) [] fun e => by simp

theorem bind {work : Work α} {next : α → Work β} (hw : Standalone work)
    (hn : ∀ a, Standalone (next a)) : Standalone (work >>= next) := by
  cases ho : work.outcome with
  | error x =>
    refine of_runFrom (.error x) work.requests fun e => ?_
    have he := hw e
    rw [ho] at he
    exact runFrom_bind_error he
  | ok a =>
    refine of_runFrom (next a).outcome (work.requests ++ (next a).requests) fun e => ?_
    have he := hw e
    rw [ho] at he
    rw [runFrom_bind_ok he, hn a, Exchange.adding_adding]

theorem tryCatch {work : Work α} {handle : Failure → Work α} (hw : Standalone work)
    (hh : ∀ x, Standalone (handle x)) : Standalone (MonadExcept.tryCatch work handle) := by
  cases ho : work.outcome with
  | error x =>
    refine of_runFrom (handle x).outcome (work.requests ++ (handle x).requests) fun e => ?_
    have he := hw e
    rw [ho] at he
    rw [runFrom_tryCatch, he]
    show (handle x).runFrom (e.adding work.requests) = _
    rw [hh x, Exchange.adding_adding]
  | ok a =>
    refine of_runFrom (.ok a) work.requests fun e => ?_
    have he := hw e
    rw [ho] at he
    rw [runFrom_tryCatch, he]

theorem map (f : α → β) {work : Work α} (hw : Standalone work) : Standalone (f <$> work) :=
  of_runFrom (work.outcome.map f) work.requests fun e => by
    rw [runFrom_map, hw e]

theorem mapFailure (change : Failure → Failure) {work : Work α} (hw : Standalone work) :
    Standalone (Work.mapFailure change work) :=
  of_runFrom (work.outcome.mapError change) work.requests fun e => by
    rw [runFrom_mapFailure, hw e]

theorem ofFault : ∀ r : Except Fault α, Standalone (Work.ofFault r)
  | .ok a => pure a
  | .error f => throw (.fault f)

theorem checkCancelled {s : Surroundings} (hs : s.cancelAfter = none) (point : CancelPoint) :
    Standalone (Work.checkCancelled s point) :=
  of_runFrom (.ok ()) [] fun e => by
    rw [runFrom_checkCancelled_none hs, Exchange.adding_nil]

theorem sendToService {s : Surroundings} {api : Web.Request → Web.Answer}
    (hs : s.service = fun _ => api) (request : Web.Request) :
    Standalone (Work.sendToService s request) :=
  of_runFrom (.ok (api request)) [request] fun e => by
    rw [runFrom_sendToService, hs, Exchange.adding]

end Standalone
end Work
end MetricFrames
