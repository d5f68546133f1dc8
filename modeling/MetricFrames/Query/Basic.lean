import MetricFrames.Data.Basic
import MetricFrames.Time.Timestamp

/-!
# Queries

A panel sends one payload per query. Its typed form is a metric query, which is built from parts or
written in the query language, or a query against a service level objective, with a kind that says
which one is meant. A batch is a list of payloads with their own ids and intervals.
-/

namespace MetricFrames

/-- What a metric is turned into before it is aggregated. -/
inductive Preprocessor where
  | none | rate | delta
  deriving DecidableEq

/-- A metric query. `filters` is a flat list of tokens; `query` and `graphPeriod` matter in the
editor mode of the query language only, `title` and `text` for remarks only. -/
structure MetricQuery where
  editorMode : String := ""
  projectName : String := ""
  metricType : String := ""
  crossSeriesReducer : String := ""
  alignmentPeriod : String := ""
  perSeriesAligner : String := ""
  groupBys : List String := []
  filters : List String := []
  aliasBy : String := ""
  view : String := ""
  preprocessor : String := ""
  query : String := ""
  graphPeriod : String := ""
  title : String := ""
  text : String := ""
  deriving DecidableEq

namespace MetricQuery

/-- The preprocessor; an unknown word means none. -/
def preprocessing (q : MetricQuery) : Preprocessor :=
  if q.preprocessor = "rate" then .rate
  else if q.preprocessor = "delta" then .delta
  else .none

/-- Whether the query is written in the query language. -/
def isWritten (q : MetricQuery) : Bool := q.editorMode == "mql"

end MetricQuery

/-- A query against a service level objective. -/
structure SloQuery where
  projectName : String := ""
  alignmentPeriod : String := ""
  aliasBy : String := ""
  selectorName : String := ""
  serviceId : String := ""
  sloId : String := ""
  deriving DecidableEq

/-- The typed form of a payload. `purpose` is set for the reserved purposes of a batch. -/
structure Query where
  kind : String := ""
  metric : MetricQuery := {}
  slo : SloQuery := {}
  purpose : String := ""
  deriving DecidableEq

namespace Query

/-- The kind of metric queries. -/
def metricKind : String := "metrics"

/-- The kind of queries against an objective. -/
def sloKind : String := "slo"

/-- The purpose of a batch whose points become remarks on a chart. -/
def remarksPurpose : String := "annotationQuery"

/-- The purpose of a batch that asks for the default project. -/
def defaultProjectPurpose : String := "getGCEDefaultProject"

end Query

/-- An absolute range of time. -/
structure TimeRange where
  start : Timestamp
  stop : Timestamp
  deriving DecidableEq

/-- The whole seconds of a range. -/
def TimeRange.seconds (r : TimeRange) : Except Fault Int := r.start.secondsUntil r.stop

/-- One query of a batch. -/
structure BatchQuery where
  refId : String
  intervalMs : Int := 0
  maxDataPoints : Int := 0
  timeRange : TimeRange
  payload : Members Data := []

end MetricFrames
