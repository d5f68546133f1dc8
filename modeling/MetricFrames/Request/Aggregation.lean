import MetricFrames.Query.Basic
import MetricFrames.Request.Alignment
import MetricFrames.Request.Params

/-!
# Aggregation

A request has up to two stages of aggregation, each in a name space of its own among the request
parameters. A preprocessor has to run before the reduction that the user chose, so it takes the
first stage, and the user's choice moves to the second.
-/

namespace MetricFrames

/-- One stage of aggregation; empty texts are not set. -/
structure Aggregation where
  alignmentPeriod : String := ""
  crossSeriesReducer : String := ""
  perSeriesAligner : String := ""
  groupByFields : List String := []
  deriving DecidableEq

/-- The stages of one request. -/
structure AggregationStages where
  primary : Aggregation
  secondary : Option Aggregation := none
  deriving DecidableEq

namespace Aggregation

/-- Adds a value unless it is empty. -/
def addGiven (ps : RequestParams) (name value : String) : RequestParams :=
  if value = "" then ps else ps.add name value

/-- Adds the parameters of a stage under a name space. -/
def addTo (a : Aggregation) (space : String) (ps : RequestParams) : RequestParams :=
  let ps := addGiven ps (space ++ ".alignmentPeriod") a.alignmentPeriod
  let ps := addGiven ps (space ++ ".crossSeriesReducer") a.crossSeriesReducer
  let ps := addGiven ps (space ++ ".perSeriesAligner") a.perSeriesAligner
  a.groupByFields.foldl (fun ps field => ps.add (space ++ ".groupByFields") field) ps

/-- The reducer where none was chosen. -/
def defaultReducer : String := "REDUCE_NONE"

/-- The aligner where none was chosen. -/
def defaultAligner : String := "ALIGN_MEAN"

/-- The chosen text, or a default for an empty one. -/
def given (chosen fallback : String) : String := if chosen = "" then fallback else chosen

end Aggregation

namespace AggregationStages

/-- Adds the parameters of all stages, the second stage first. -/
def addTo (s : AggregationStages) (ps : RequestParams) : RequestParams :=
  let ps := (s.secondary.map fun a => a.addTo "secondaryAggregation" ps).getD ps
  s.primary.addTo "aggregation" ps

/-- The stages of a metric query. -/
def ofMetric (q : MetricQuery) (seconds intervalMs : Int) : Except Fault AggregationStages :=
  (Alignment.period q.alignmentPeriod intervalMs seconds).map fun period =>
    let reducer := Aggregation.given q.crossSeriesReducer Aggregation.defaultReducer
    let aligner := Aggregation.given q.perSeriesAligner Aggregation.defaultAligner
    let chosen : Aggregation := ⟨period, reducer, aligner, q.groupBys⟩
    let first (preprocessing : String) : Aggregation :=
      ⟨period, if q.groupBys.isEmpty then Aggregation.defaultReducer else reducer, preprocessing,
        q.groupBys⟩
    match q.preprocessing with
    | .none => ⟨chosen, none⟩
    | .rate => ⟨first "ALIGN_RATE", some chosen⟩
    | .delta => ⟨first "ALIGN_DELTA", some chosen⟩

/-- The one stage of a query against an objective. Burn rates are step functions, so they take the
next older value; the health of an objective is averaged. -/
def ofSlo (q : SloQuery) (seconds intervalMs : Int) : Except Fault AggregationStages :=
  (Alignment.period q.alignmentPeriod intervalMs seconds).map fun period =>
    let aligner :=
      if q.selectorName = "select_slo_health" then "ALIGN_MEAN" else "ALIGN_NEXT_OLDER"
    ⟨⟨period, "", aligner, []⟩, none⟩

end AggregationStages
end MetricFrames
