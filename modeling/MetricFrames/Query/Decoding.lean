import MetricFrames.Data.Text
import MetricFrames.Decode.Scalar
import MetricFrames.Query.Basic

/-!
# Decoding queries

The fields of the query models. `Query.ofPayload` also takes the older flat form of a payload, in
which the fields of the metric query stand at the top level: it is recognised by a kind that is
absent, not given or that of metric queries, and by a missing metric query.
-/

namespace MetricFrames

open Decoder

/-- A text field that may be left out. -/
def textField (wire plain : String) (ms : Members Data) : Checked String :=
  FieldName.optional ⟨wire, plain⟩ "" text ms

/-- A field with a list of texts, for which null means empty. -/
def textsField (wire plain : String) (ms : Members Data) : Checked (List String) :=
  FieldName.optional ⟨wire, plain⟩ [] (nullAsEmpty (list text)) ms

/-- A metric query from its members. -/
def MetricQuery.ofMembers (ms : Members Data) : Checked MetricQuery :=
  MetricQuery.mk <$> textField "editorMode" "editor_mode" ms
    <*> textField "projectName" "project_name" ms
    <*> textField "metricType" "metric_type" ms
    <*> textField "crossSeriesReducer" "cross_series_reducer" ms
    <*> textField "alignmentPeriod" "alignment_period" ms
    <*> textField "perSeriesAligner" "per_series_aligner" ms
    <*> textsField "groupBys" "group_bys" ms
    <*> textsField "filters" "filters" ms
    <*> textField "aliasBy" "alias_by" ms
    <*> textField "view" "view" ms
    <*> textField "preprocessor" "preprocessor" ms
    <*> textField "query" "query" ms
    <*> textField "graphPeriod" "graph_period" ms
    <*> textField "title" "title" ms
    <*> textField "text" "text" ms

/-- A query against an objective from its members. -/
def SloQuery.ofMembers (ms : Members Data) : Checked SloQuery :=
  SloQuery.mk <$> textField "projectName" "project_name" ms
    <*> textField "alignmentPeriod" "alignment_period" ms
    <*> textField "aliasBy" "alias_by" ms
    <*> textField "selectorName" "selector_name" ms
    <*> textField "serviceId" "service_id" ms
    <*> textField "sloId" "slo_id" ms

/-- A query from its members. -/
def Query.ofMembers (ms : Members Data) : Checked Query :=
  Query.mk <$> textField "queryType" "query_type" ms
    <*> FieldName.optional ⟨"metricQuery", "metric_query"⟩ {} (record MetricQuery.ofMembers) ms
    <*> FieldName.optional ⟨"sloQuery", "slo_query"⟩ {} (record SloQuery.ofMembers) ms
    <*> textField "type" "type" ms

/-- The names of the models in reports. -/
def MetricQuery.model : String := "MetricQuery"

/-- The name of the model in reports. -/
def SloQuery.model : String := "SloQuery"

/-- The name of the model in reports. -/
def Query.model : String := "CloudMonitoringQuery"

namespace Query

/-- The member with a name, null if there is none. -/
def member (ms : Members Data) (name : String) : Data := (ms.get? name).getD .null

/-- Whether a payload has the older flat form. -/
def isFlat (ms : Members Data) : Bool :=
  (match member ms "metricQuery" with
    | .null => true
    | _ => false) &&
  (match (member ms "queryType").orElse (.text metricKind) with
    | .text kind => kind == metricKind
    | _ => false)

/-- The query of a payload in the flat form. -/
def ofFlat (ms : Members Data) : Except Rejection Query := do
  let metric ← (MetricQuery.ofMembers ms).report MetricQuery.model
  let given := (member ms "type").orElse (.text "")
  let purpose ← ((text given).below "type").report Query.model
  return { kind := metricKind, metric := metric, purpose := purpose }

/-- The query of a payload in the nested form; without a kind it is a metric query. -/
def ofNested (ms : Members Data) : Except Rejection Query :=
  ((ofMembers ms).report Query.model).map fun q =>
    if q.kind = "" then { q with kind := metricKind } else q

/-- The query of a payload. -/
def ofPayload (ms : Members Data) : Except Rejection Query :=
  if isFlat ms then ofFlat ms else ofNested ms

/-- Just enough of a payload to see its purpose. -/
def purposeOf (ms : Members Data) : Except Rejection String :=
  (textField "type" "type" ms).report "QueryModel"

end Query

/-! ### Batches -/

/-- The name of the model in reports. -/
def TimeRange.model : String := "TimeRange"

/-- A range of time. -/
def TimeRange.decoder : Decoder TimeRange :=
  record fun ms =>
    TimeRange.mk <$> FieldName.required ⟨"from", "from_"⟩ (timestamp .values) ms
      <*> FieldName.required ⟨"to", "to"⟩ (timestamp .values) ms

/-- The name of the model in reports. -/
def BatchQuery.model : String := "DataQuery"

/-- One query of a batch from its members; its range of time is decoded by `range`. -/
def BatchQuery.ofMembers (range : Members Data → Checked TimeRange) (ms : Members Data) :
    Checked BatchQuery :=
  BatchQuery.mk <$> FieldName.required ⟨"refId", "ref_id"⟩ text ms
    <*> FieldName.optional ⟨"intervalMs", "interval_ms"⟩ 0 integer ms
    <*> FieldName.optional ⟨"maxDataPoints", "max_data_points"⟩ 0 integer ms
    <*> range ms
    <*> FieldName.optional ⟨"json", "payload"⟩ [] (dictionary any) ms

/-- One query of a batch. -/
def BatchQuery.decoder : Decoder BatchQuery :=
  record (BatchQuery.ofMembers
    (FieldName.required ⟨"timeRange", "time_range"⟩ TimeRange.decoder))

end MetricFrames
