import MetricFrames.Legend.Basic
import MetricFrames.Query.Basic
import MetricFrames.Request.Params
import MetricFrames.Time.Text
import MetricFrames.Web.Explorer

/-!
# Query plans

A plan is a query that is ready to run: what it will ask for is settled, only the project may still
depend on the datasource. There are three shapes: a filter over series, the same for a service
level objective, and a query in the query language.
-/

namespace MetricFrames

/-- What a plan asks for. -/
inductive QueryPlan.Shape where
  | filter (params : RequestParams) (groupBys : List String)
  | objective (params : RequestParams) (service slo selector : String)
  | written (query graphPeriod : String) (maxDataPoints : Int)

/-- A query that is ready to run. -/
structure QueryPlan where
  refId : String
  timeRange : TimeRange
  intervalMs : Int
  projectName : String
  aliasBy : String
  shape : QueryPlan.Shape

/-- The values that a project of any type gives to a query parameter. -/
def Data.paramValues : Data → List String
  | .list items => items.map single
  | d => [single d]
where
  /-- The value of a single item. -/
  single : Data → String
    | .null => ""
    | .bool b => if b then "true" else "false"
    | d => d.display

namespace QueryPlan

/-- The parameters of a plan for series. -/
def params (p : QueryPlan) : RequestParams :=
  match p.shape with
  | .filter params _ => params
  | .objective params .. => params
  | .written .. => {}

/-- What the legend of a plan may refer to. -/
def legend (p : QueryPlan) : Legend :=
  match p.shape with
  | .objective _ service slo selector =>
    ⟨p.aliasBy, p.projectName, service, slo, selector⟩
  | _ => { template := p.aliasBy, project := p.projectName }

/-! ### The query language -/

/-- The automatic width of points in seconds: the whole seconds of the interval, at least one, and
more if the range would otherwise hold too many points. -/
def graphPeriodSeconds (range : TimeRange) (intervalMs maxDataPoints : Int) : Except Fault Int :=
  let seconds := max (intervalMs / 1000) 1
  if 0 < maxDataPoints then
    range.seconds.map fun duration => max seconds (Int.fdiv duration maxDataPoints)
  else .ok seconds

/-- The clause that sets the width of points, unless it is disabled or the query has one. -/
def graphPeriodClause (range : TimeRange) (intervalMs : Int) (query graphPeriod : String)
    (maxDataPoints : Int) : Except Fault String :=
  if graphPeriod = "disabled" ∨ Text.contains "graph_period".toList query.toList then .ok ""
  else if graphPeriod = "" ∨ graphPeriod = "auto" then
    (graphPeriodSeconds range intervalMs maxDataPoints).map fun seconds =>
      " | graph_period " ++ toString seconds ++ "s"
  else .ok (" | graph_period " ++ graphPeriod)

/-- A query with the clauses for the width of points and the range of time. -/
def writtenQuery (range : TimeRange) (intervalMs : Int) (query graphPeriod : String)
    (maxDataPoints : Int) : Except Fault String := do
  let start ← range.start.windowText
  let stop ← range.stop.windowText
  let clause ← graphPeriodClause range intervalMs query graphPeriod maxDataPoints
  return query ++ clause ++ " | within d'" ++ start ++ "', d'" ++ stop ++ "'"

/-- The request of a plan as its results cite it: the encoded parameters, or the query with its
clauses. -/
def executed (p : QueryPlan) : Except Fault String :=
  match p.shape with
  | .written query graphPeriod maxDataPoints =>
    writtenQuery p.timeRange p.intervalMs query graphPeriod maxDataPoints
  | _ => .ok p.params.encode

/-! ### Links -/

/-- The link to the explorer for a plan, under the project it ran in or else its own. The explorer
has no view for objectives. -/
def link (p : QueryPlan) (ranIn : Data) : Except Fault String :=
  let project := (ranIn.orElse (.text p.projectName)).paramValues
  match p.shape with
  | .filter params _ =>
    Explorer.link project
      (.filter (params.get "filter") (params.get "aggregation.crossSeriesReducer")
        (params.get "aggregation.perSeriesAligner") (params.get "aggregation.alignmentPeriod")
        (params.getAll "aggregation.groupByFields"))
      (params.get "interval.startTime") (params.get "interval.endTime")
  | .objective .. => .ok ""
  | .written query _ _ => do
    let start ← p.timeRange.start.rfc3339
    let stop ← p.timeRange.stop.rfc3339
    Explorer.link project (.written query) start stop

end QueryPlan
end MetricFrames
