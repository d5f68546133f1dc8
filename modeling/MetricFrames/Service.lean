import MetricFrames.Datasource.Registry
import MetricFrames.Plan.Building
import MetricFrames.Plan.Remarks
import MetricFrames.Plan.Running

/-!
# The query service

A batch of queries goes in, frames for each of its ids come out. The purpose of the first query
says whether the batch is one of the reserved kinds. In a regular batch each query runs by itself:
what goes wrong in one stands in its result, and the others go on. Only a cancellation, a problem
with the batch as a whole and a fault that nobody handles leave no results.
-/

namespace MetricFrames.Service

/-- The results of a batch by id, in the order in which the ids were first met. -/
abbrev Results := Members QueryResult

/-- Work of which a problem with the query is caught. -/
def attempt {α : Type} (work : Work α) : Work (Except QueryProblem α) :=
  tryCatch (Except.ok <$> work) fun
    | .query problem => pure (.error problem)
    | failure => throw failure

/-- The result of frames and what may have gone wrong while they were read. -/
def resultOf : List Frame × Option Failure → Work QueryResult
  | (frames, none) => pure { frames := frames }
  | (frames, some (.query problem)) => pure { frames := frames, error := some problem.message }
  | (_, some failure) => throw failure

/-- Runs a plan and reads its answer with `read`. -/
def answer (s : Surroundings) (i : Instance) (p : QueryPlan)
    (read : QueryPlan.Finished → List Frame × Option Failure) : Work QueryResult := do
  match ← attempt (p.run s i) with
  | .error problem => return { error := some problem.message }
  | .ok finished => resultOf (read finished)

/-- Runs one plan of a regular batch, unless the batch was cancelled. -/
def answerPlan (s : Surroundings) (i : Instance) (p : QueryPlan) : Work QueryResult := do
  Work.checkCancelled s (.query p.refId)
  answer s i p fun finished => p.frames finished.project finished.executed finished.answer

/-- Runs plans one after another; a later result takes the place of an earlier one with its id. -/
def answerPlans (s : Surroundings) (i : Instance) : Results → List QueryPlan → Work Results
  | results, [] => pure results
  | results, p :: plans => do
    let result ← answerPlan s i p
    answerPlans s i (results.put p.refId result) plans

/-- What a built batch runs. -/
def ofBuilt {α : Type} : Except Failure α → Work α
  | .ok a => pure a
  | .error failure => throw failure

/-- A regular batch. -/
def answerRegular (s : Surroundings) (i : Instance) (queries : List BatchQuery) :
    Work Results := do
  answerPlans s i [] (← ofBuilt (QueryPlan.ofBatch queries))

/-- The templates of the remarks on the first query of a batch. -/
def templatesOf (queries : List BatchQuery) : RemarkTemplates :=
  match queries.head?.map fun b => Query.ofPayload b.payload with
  | some (.ok q) => ⟨q.metric.title, q.metric.text⟩
  | _ => ⟨"", ""⟩

/-- A batch for remarks: only its first query runs, though all have to be plans. -/
def answerRemarks (s : Surroundings) (i : Instance) (queries : List BatchQuery) :
    Work Results := do
  match ← ofBuilt (QueryPlan.ofBatch queries) with
  | [] => return []
  | p :: _ =>
    let result ← answer s i p fun finished => p.remarks (templatesOf queries) finished.answer
    return [(p.refId, result)]

/-- A batch that asks for the default project: one frame without fields that names it. -/
def answerDefaultProject (s : Surroundings) (i : Instance) (refId : String) : Work Results := do
  let project ← Work.mapFailure (fun
    | .credentials problem => .batch (.noDefaultProject problem)
    | failure => failure) (i.defaultProject s)
  let frame : Frame :=
    { refId := refId, origin := some { custom := [("defaultProject", project)] } }
  return [(refId, { frames := [frame] })]

/-- A batch for an instance, according to its purpose. -/
def answerFor (s : Surroundings) (i : Instance) (purpose : String) (first : BatchQuery)
    (queries : List BatchQuery) : Work Results :=
  if purpose = Query.remarksPurpose then answerRemarks s i queries
  else if purpose = Query.defaultProjectPurpose then answerDefaultProject s i first.refId
  else answerRegular s i queries

/-- Answers a batch. -/
def queryData (host : Host) (s : Surroundings) (r : Registry) (b : Batch) :
    Registry.Outcome Results :=
  match b.queries with
  | [] => ⟨.error (.batch .noQueries), r, {}⟩
  | first :: _ =>
    match Query.purposeOf first.payload with
    | .error rejection => ⟨.error (.batch (.undecodable rejection)), r, {}⟩
    | .ok purpose => r.workFor host b.datasource fun i => answerFor s i purpose first b.queries

end MetricFrames.Service
