import MetricFrames.Datasource.Exchange

/-!
# Runs of work

A run starts from a record of what was exchanged before; it ends with an outcome and with the record
afterwards. The equations below say what the run of a composed piece of work comes to, so that a
proof about the service never has to open the layers of `Work`.
-/

namespace MetricFrames.Work

variable {α β : Type}

/-- The outcome of work that starts from a record, and the record afterwards. -/
def runFrom (work : Work α) (e : Exchange) : Except Failure α × Exchange := work.run.run e

/-! ### Equations -/

@[simp] theorem runFrom_pure (a : α) (e : Exchange) :
    (pure a : Work α).runFrom e = (.ok a, e) := rfl

@[simp] theorem runFrom_throw (x : Failure) (e : Exchange) :
    (throw x : Work α).runFrom e = (.error x, e) := rfl

theorem runFrom_bind (work : Work α) (next : α → Work β) (e : Exchange) :
    (work >>= next).runFrom e =
      match work.runFrom e with
      | (.ok a, e') => (next a).runFrom e'
      | (.error x, e') => (.error x, e') := by
  show (ExceptT.bindCont next (work.runFrom e).1).run (work.runFrom e).2 = _
  rcases work.runFrom e with ⟨x | a, e'⟩
  · rfl
  · rfl

theorem runFrom_tryCatch (work : Work α) (handle : Failure → Work α) (e : Exchange) :
    (tryCatch work handle).runFrom e =
      match work.runFrom e with
      | (.ok a, e') => (.ok a, e')
      | (.error x, e') => (handle x).runFrom e' := by
  show (ExceptT.tryCatch work handle).run.run e = _
  rcases h : work.runFrom e with ⟨x | a, e'⟩
  · simp_all [runFrom, ExceptT.tryCatch, ExceptT.mk, ExceptT.run, StateT.run, bind, StateT.bind]
  · simp_all [runFrom, ExceptT.tryCatch, ExceptT.mk, ExceptT.run, StateT.run, bind, StateT.bind]
    rfl

theorem runFrom_map (f : α → β) (work : Work α) (e : Exchange) :
    (f <$> work).runFrom e = ((work.runFrom e).1.map f, (work.runFrom e).2) := by
  show (ExceptT.map f work).run.run e = _
  rcases h : work.runFrom e with ⟨x | a, e'⟩
  · simp_all [runFrom, ExceptT.map, ExceptT.mk, ExceptT.run, StateT.run, bind, StateT.bind,
      Except.map]
    rfl
  · simp_all [runFrom, ExceptT.map, ExceptT.mk, ExceptT.run, StateT.run, bind, StateT.bind,
      Except.map]
    rfl

@[simp] theorem runFrom_get (e : Exchange) : (get : Work Exchange).runFrom e = (.ok e, e) := rfl

@[simp] theorem runFrom_set (e e' : Exchange) :
    (set e' : Work Unit).runFrom e = (.ok ⟨⟩, e') := rfl

theorem runFrom_bind_ok {work : Work α} {next : α → Work β} {e e' : Exchange} {a : α}
    (h : work.runFrom e = (.ok a, e')) : (work >>= next).runFrom e = (next a).runFrom e' := by
  rw [runFrom_bind, h]

theorem runFrom_bind_error {work : Work α} {next : α → Work β} {e e' : Exchange} {x : Failure}
    (h : work.runFrom e = (.error x, e')) : (work >>= next).runFrom e = (.error x, e') := by
  rw [runFrom_bind, h]

/-- Work in two steps that comes to a value had a value after its first step. -/
theorem exists_of_runFrom_bind_ok {work : Work α} {next : α → Work β} {e e'' : Exchange} {b : β}
    (h : (work >>= next).runFrom e = (.ok b, e'')) :
    ∃ a e', work.runFrom e = (.ok a, e') ∧ (next a).runFrom e' = (.ok b, e'') := by
  rw [runFrom_bind] at h
  rcases hw : work.runFrom e with ⟨_ | a, e'⟩
  · simp [hw] at h
  · exact ⟨a, e', rfl, by simpa only [hw] using h⟩

/-! ### Outcomes -/

/-- The fault that ended work, if one did. -/
def faultOf : Except Failure α → Option Fault
  | .error (.fault f) => some f
  | _ => none

theorem runFrom_eq_of_fst {work : Work α} {e : Exchange} {r : Except Failure α}
    (h : (work.runFrom e).1 = r) : work.runFrom e = (r, (work.runFrom e).2) := by
  rw [← h]

theorem eq_of_faultOf {r : Except Failure α} {f : Fault} (h : faultOf r = some f) :
    r = .error (.fault f) := by
  cases r with
  | ok a => cases h
  | error x =>
    cases x with
    | fault g =>
      cases h
      rfl
    | batch problem => cases h
    | cancelled point => cases h
    | query problem => cases h
    | credentials problem => cases h

/-! ### Parts of work -/

@[simp] theorem ofFault_ok (a : α) : ofFault (.ok a) = pure a := rfl

@[simp] theorem ofFault_error (f : Fault) : ofFault (.error f) = (throw (.fault f) : Work α) := rfl

theorem eq_ok_of_runFrom_ofFault {step : Except Fault α} {a : α} {e e' : Exchange}
    (h : (ofFault step).runFrom e = (.ok a, e')) : step = .ok a := by
  cases step with
  | ok b =>
    cases h
    rfl
  | error f => cases h

theorem runFrom_mapFailure (change : Failure → Failure) (work : Work α) (e : Exchange) :
    (mapFailure change work).runFrom e =
      ((work.runFrom e).1.mapError change, (work.runFrom e).2) := by
  rw [mapFailure, runFrom_tryCatch]
  rcases work.runFrom e with ⟨_ | a, e'⟩ <;> rfl

theorem runFrom_checkCancelled (s : Surroundings) (point : CancelPoint) (e : Exchange) :
    (checkCancelled s point).runFrom e =
      (if isCancelled s e then .error (.cancelled point) else .ok (), e) := by
  rw [checkCancelled, runFrom_bind_ok (runFrom_get e)]
  split <;> rfl

theorem runFrom_checkCancelled_false {s : Surroundings} {e : Exchange}
    (h : isCancelled s e = false) (point : CancelPoint) :
    (checkCancelled s point).runFrom e = (.ok (), e) := by
  rw [runFrom_checkCancelled, h]
  rfl

theorem runFrom_checkCancelled_true {s : Surroundings} {e : Exchange}
    (h : isCancelled s e = true) (point : CancelPoint) :
    (checkCancelled s point).runFrom e = (.error (.cancelled point), e) := by
  rw [runFrom_checkCancelled, h]
  rfl

/-- Nothing is stopped where nothing is ever cancelled. -/
theorem isCancelled_eq_false {s : Surroundings} (hs : s.cancelAfter = none) (e : Exchange) :
    isCancelled s e = false := by
  rw [isCancelled, hs]

theorem runFrom_checkCancelled_none {s : Surroundings} (hs : s.cancelAfter = none)
    (point : CancelPoint) (e : Exchange) : (checkCancelled s point).runFrom e = (.ok (), e) :=
  runFrom_checkCancelled_false (isCancelled_eq_false hs e) point

theorem runFrom_sendToService (s : Surroundings) (request : Web.Request) (e : Exchange) :
    (sendToService s request).runFrom e =
      (.ok (s.service e.sent request), { e with sent := e.sent ++ [request] }) := rfl

end MetricFrames.Work
