import MetricFrames.Plan.Basic
import MetricFrames.Failure
import MetricFrames.Request.Aggregation

/-!
# Building plans

Every query of a batch becomes a plan before the first request goes out, so a batch with one bad
query costs nothing. All queries share the range of time of the first one; each keeps its interval.
-/

namespace MetricFrames.QueryPlan

/-- The parameters for a range of time. -/
def rangeParams (range : TimeRange) : Except Fault RequestParams := do
  let start ← range.start.rfc3339
  let stop ← range.stop.rfc3339
  return (({} : RequestParams).add "interval.startTime" start).add "interval.endTime" stop

/-- The view of series where none was chosen. -/
def defaultView : String := "FULL"

/-- A fault as a failure. -/
def orFault {α : Type} : Except Fault α → Except Failure α
  | .ok a => .ok a
  | .error f => .error (.fault f)

/-- The plan of a metric query that is built from parts. -/
def ofMetric (refId : String) (q : MetricQuery) (range : TimeRange) (intervalMs : Int) :
    Except Failure QueryPlan := do
  let params ← orFault (rangeParams range)
  let filter ←
    match Filter.build q.metricType q.filters with
    | .ok filter => .ok filter
    | .error m => .error (.batch (.malformedFilter refId m))
  let params := (params.add "filter" filter).add "view" (Aggregation.given q.view defaultView)
  let seconds ← orFault range.seconds
  let stages ← orFault (AggregationStages.ofMetric q seconds intervalMs)
  return ⟨refId, range, intervalMs, q.projectName, q.aliasBy,
    .filter (stages.addTo params) q.groupBys⟩

/-- The plan of a query in the query language. -/
def ofWritten (refId : String) (q : MetricQuery) (range : TimeRange) (intervalMs : Int)
    (maxDataPoints : Int) : QueryPlan :=
  ⟨refId, range, intervalMs, q.projectName, q.aliasBy,
    .written q.query q.graphPeriod maxDataPoints⟩

/-- The plan of a query against an objective. -/
def ofSlo (refId : String) (q : SloQuery) (range : TimeRange) (intervalMs : Int) :
    Except Failure QueryPlan := do
  let params ← orFault (rangeParams range)
  let params := params.add "filter" (Filter.objective q)
  let seconds ← orFault range.seconds
  let stages ← orFault (AggregationStages.ofSlo q seconds intervalMs)
  return ⟨refId, range, intervalMs, q.projectName, q.aliasBy,
    .objective (stages.addTo params) q.serviceId q.sloId q.selectorName⟩

/-- The plan of one decoded query. -/
def ofQuery (b : BatchQuery) (q : Query) (range : TimeRange) : Except Failure QueryPlan :=
  if q.kind = Query.metricKind then
    if q.metric.isWritten then .ok (ofWritten b.refId q.metric range b.intervalMs b.maxDataPoints)
    else ofMetric b.refId q.metric range b.intervalMs
  else if q.kind = Query.sloKind then ofSlo b.refId q.slo range b.intervalMs
  else .error (.batch (.unknownKind q.kind))

/-- The plan of one query of a batch, for a range of time. -/
def ofBatchQuery (range : TimeRange) (b : BatchQuery) : Except Failure QueryPlan :=
  match Query.ofPayload b.payload with
  | .error r => .error (.batch (.undecodableQuery r))
  | .ok q => ofQuery b q range

/-- The plans of a batch, in order. -/
def ofBatch (queries : List BatchQuery) : Except Failure (List QueryPlan) :=
  match queries with
  | [] => .error (.fault .indexOutOfRange)
  | first :: _ => queries.mapM (ofBatchQuery first.timeRange)

end MetricFrames.QueryPlan
