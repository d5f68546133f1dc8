import MetricFrames.Json.Writing
import MetricFrames.Web.Address

/-!
# Links to the metrics explorer

The explorer reads its whole state from one query parameter that holds JSON. The address of the
explorer is in turn a parameter of the account chooser, so that the user lands in the right
account.
-/

namespace MetricFrames.Explorer

/-- What a chart shows: the series of a filter, or a query in the query language. -/
inductive DataSet where
  | filter (expression reducer aligner period : String) (groupBys : List String)
  | written (query : String)

/-- A data set as the explorer reads it. -/
def DataSet.toData : DataSet → Data
  | .filter expression reducer aligner period groupBys =>
    .object [("timeSeriesFilter", .object [
      ("aggregations", .list []),
      ("crossSeriesReducer", .text reducer),
      ("filter", .text expression),
      ("groupByFields", .list (groupBys.map Data.text)),
      ("minAlignmentPeriod", .text (String.ofList (period.toList.dropWhile (· == '+')))),
      ("perSeriesAligner", .text aligner),
      ("secondaryGroupByFields", .list []),
      ("unitOverride", .text "1")])]
  | .written query =>
    .object [
      ("plotType", .text "LINE"),
      ("targetAxis", .text "Y1"),
      ("timeSeriesQuery", .text query)]

/-- The state of the explorer with one chart over a range of time; members are sorted by name. -/
def pageState (set : DataSet) (start stop : String) : Data :=
  .object [
    ("timeSelection", .object [
      ("end", .text stop),
      ("start", .text start),
      ("timeRange", .text "custom")]),
    ("xyChart", .object [
      ("constantLines", .list []),
      ("dataSets", .list [set.toData]),
      ("timeshiftDuration", .text "0s"),
      ("y1Axis", .object [("label", .text "y1Axis"), ("scale", .text "LINEAR")])])]

/-- The address of the explorer. -/
def explorerAddress : String := "https://console.cloud.google.com/monitoring/metrics-explorer"

/-- The address of the account chooser. -/
def chooserAddress : String := "https://accounts.google.com/AccountChooser"

/-- An address with a query of named values, unless the query is too long. -/
def addressWith (address : String) (params : List (String × String)) : Except Fault String :=
  let query := Web.formEncode params
  (Web.Address.checkPart "query" query).map fun _ =>
    String.ofList (address.toList ++ '?' :: query)

/-- The link to a chart. The project is a list of texts, of which there is one as a rule. -/
def link (project : List String) (set : DataSet) (start stop : String) : Except Fault String := do
  let state := String.ofList (Json.compact true (pageState set start stop))
  let explorer ← addressWith explorerAddress
    (project.map (Prod.mk "project") ++ [("Grafana_deeplink", "true"), ("pageState", state)])
  addressWith chooserAddress [("continue", explorer)]

end MetricFrames.Explorer
