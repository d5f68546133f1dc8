import MetricFrames.Proofs.Plan.Building
import MetricFrames.Proofs.Work.Running
import MetricFrames.Service

/-!
# Answers to a batch

A batch that returns has answered all of its plans, one after another. Its results are named by the
ids of its plans, each of them once (`mem_names_answerPlans`, `nodup_names_answerPlans`).
-/

namespace MetricFrames.Service

open Work

variable {s : Surroundings} {i : Instance} {results results' : Results} {e e' e'' : Exchange}

/-! ### One plan -/

theorem runFrom_attempt {α : Type} (work : Work α) (e : Exchange) :
    (attempt work).runFrom e =
      match work.runFrom e with
      | (.ok a, e') => (.ok (.ok a), e')
      | (.error (.query problem), e') => (.ok (.error problem), e')
      | (.error failure, e') => (.error failure, e') := by
  rw [attempt, runFrom_tryCatch, runFrom_map]
  rcases work.runFrom e with ⟨x | a, e'⟩
  · cases x <;> rfl
  · rfl

/-- The result of a plan, by what came of running it. -/
theorem runFrom_answerPlan (hc : isCancelled s e = false) (i : Instance) (p : QueryPlan) :
    (answerPlan s i p).runFrom e =
      match (p.run s i).runFrom e with
      | (.ok finished, e') =>
        (resultOf (p.frames finished.project finished.executed finished.answer)).runFrom e'
      | (.error (.query problem), e') => (.ok { error := some problem.message }, e')
      | (.error failure, e') => (.error failure, e') := by
  rw [answerPlan, runFrom_bind_ok (runFrom_checkCancelled_false hc _), answer, runFrom_bind,
    runFrom_attempt]
  rcases (p.run s i).runFrom e with ⟨x | finished, e'⟩
  · cases x <;> rfl
  · rfl

/-! ### All plans of a batch -/

theorem answerRegular_eq {queries : List BatchQuery} {plans : List QueryPlan}
    (h : QueryPlan.ofBatch queries = .ok plans) (s : Surroundings) (i : Instance) :
    answerRegular s i queries = answerPlans s i [] plans := by
  rw [answerRegular, h]
  rfl

/-- A batch that returns was planned. -/
theorem exists_of_answerRegular_ok {queries : List BatchQuery}
    (h : (answerRegular s i queries).runFrom e = (.ok results, e')) :
    ∃ plans, QueryPlan.ofBatch queries = .ok plans ∧
      (answerPlans s i [] plans).runFrom e = (.ok results, e') := by
  cases hb : QueryPlan.ofBatch queries with
  | error x =>
    rw [answerRegular, hb] at h
    cases h
  | ok plans => exact ⟨plans, rfl, by rw [← answerRegular_eq hb, h]⟩

/-- One step of a batch: the first plan has a result, and the others go on with it. -/
theorem exists_of_answerPlans_cons {p : QueryPlan} {plans : List QueryPlan}
    (h : (answerPlans s i results (p :: plans)).runFrom e = (.ok results', e'')) :
    ∃ result e', (answerPlan s i p).runFrom e = (.ok result, e') ∧
      (answerPlans s i (results.put p.refId result) plans).runFrom e' = (.ok results', e'') :=
  exists_of_runFrom_bind_ok h

/-- A batch goes on with the results that its first plans left. -/
theorem answerPlans_append (s : Surroundings) (i : Instance) (results : Results)
    (before after : List QueryPlan) :
    answerPlans s i results (before ++ after) = (do
      answerPlans s i (← answerPlans s i results before) after) := by
  induction before generalizing results with
  | nil =>
    rw [List.nil_append, answerPlans, pure_bind]
  | cons p before ih =>
    rw [List.cons_append, answerPlans, answerPlans, bind_assoc]
    exact congrArg _ (funext fun result => ih _)

theorem mem_names_answerPlans {plans : List QueryPlan}
    (h : (answerPlans s i results plans).runFrom e = (.ok results', e')) (id : String) :
    id ∈ results'.map (·.1) ↔ id ∈ results.map (·.1) ∨ id ∈ plans.map (·.refId) := by
  induction plans generalizing results e with
  | nil =>
    cases h
    simp
  | cons p plans ih =>
    obtain ⟨result, e₁, -, h⟩ := exists_of_answerPlans_cons h
    rw [ih h, Members.mem_names_put, List.map_cons, List.mem_cons, or_assoc, or_left_comm]

theorem nodup_names_answerPlans {plans : List QueryPlan} (hr : (results.map (·.1)).Nodup)
    (h : (answerPlans s i results plans).runFrom e = (.ok results', e')) :
    (results'.map (·.1)).Nodup := by
  induction plans generalizing results e with
  | nil =>
    cases h
    exact hr
  | cons p plans ih =>
    obtain ⟨result, e₁, -, h⟩ := exists_of_answerPlans_cons h
    exact ih (Members.nodup_names_put _ _ hr) h

/-- Plans leave results alone that have other ids. -/
theorem get?_answerPlans_of_not_mem {plans : List QueryPlan}
    (h : (answerPlans s i results plans).runFrom e = (.ok results', e')) {id : String}
    (hid : id ∉ plans.map (·.refId)) : results'.get? id = results.get? id := by
  induction plans generalizing results e with
  | nil =>
    cases h
    rfl
  | cons p plans ih =>
    obtain ⟨result, e₁, -, h⟩ := exists_of_answerPlans_cons h
    rw [List.map_cons, List.mem_cons, not_or] at hid
    rw [ih h hid.2, Members.get?_put, if_neg (Ne.symm hid.1)]

/-- The ids of the results, if there are any. -/
def refIdsOf (r : Except Failure Results) : Option (List String) :=
  r.toOption.map fun results => results.map (·.1)

theorem exists_of_refIdsOf {r : Except Failure Results} {ids : List String}
    (h : refIdsOf r = some ids) : ∃ results, r = .ok results ∧ results.map (·.1) = ids := by
  cases r with
  | error x => cases h
  | ok results => exact ⟨results, rfl, Option.some.inj h⟩

/-- The ids of the plans of a batch are those of its queries. -/
theorem refIds_of_forall₂ {range : TimeRange} {queries : List BatchQuery}
    {plans : List QueryPlan}
    (h : List.Forall₂ (fun b p => QueryPlan.ofBatchQuery range b = .ok p) queries plans) :
    plans.map (·.refId) = queries.map (·.refId) := by
  induction h with
  | nil => rfl
  | cons hb _ ih => rw [List.map_cons, List.map_cons, ih, QueryPlan.refId_ofBatchQuery hb]

end MetricFrames.Service
