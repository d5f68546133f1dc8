import MetricFrames.Data.Basic
import MetricFrames.Legend.MetricType
import MetricFrames.Legend.Template

/-!
# Legends and remarks

Two uses of templates. A legend names a series: its placeholders are the parts of the metric type,
the labels of the series, and a few names of the query. A remark describes a point: its
placeholders are the value of the point, the parts of the metric type, and labels under their full
names.
-/

namespace MetricFrames

/-- What a legend may refer to besides the series: the names of the query it belongs to. -/
structure Legend where
  template : String := ""
  project : String := ""
  service : String := ""
  slo : String := ""
  selector : String := ""

namespace Legend

/-- A text unless it is empty. -/
def given? (s : String) : Option (List Char) := if s = "" then none else some s.toList

/-- What a name of the query stands for. -/
def lookup? (l : Legend) (name : List Char) : Option (List Char) :=
  if name = "project".toList then given? l.project
  else if name = "service".toList then given? l.service
  else if name = "slo".toList then given? l.slo
  else if name = "selector".toList then given? l.selector
  else none

/-- The value of a label. -/
def label? (labels : Members String) (name : List Char) : Option (List Char) :=
  (labels.get? (String.ofList name)).map String.toList

/-- What a placeholder of a legend stands for: the first of the metric type, its parts, the labels,
the additional labels and the names of the query that has the name. -/
def resolve? (l : Legend) (metricType : String) (labels additional : Members String)
    (name : List Char) : Option (List Char) :=
  if name = "metric.type".toList then some metricType.toList
  else
    (MetricType.resolve? name metricType.toList <|> label? labels name <|>
      label? additional name <|> l.lookup? name)

/-- The name of a series. Without a template it is the default name. -/
def name (l : Legend) (metricType defaultName : String) (labels additional : Members String) :
    String :=
  if l.template = "" then defaultName
  else
    String.ofList
      (Template.expand (l.resolve? metricType labels additional) l.template.toList)

end Legend

namespace Remark

/-- What a placeholder of a remark stands for. A label is addressed by its full name, which says
whether it belongs to the metric or to the resource. -/
def resolve? (value metricType : String) (metricLabels resourceLabels : Members String)
    (name : List Char) : Option (List Char) :=
  if name = "metric.value".toList then some value.toList
  else
    match MetricType.resolve? name metricType.toList with
    | some part => some part
    | none =>
      let name := Text.replaceFirst "metric.label.".toList [] name
      match Legend.label? metricLabels name with
      | some label => some label
      | none =>
        Legend.label? resourceLabels (Text.replaceFirst "resource.label.".toList [] name)

/-- The text of a remark. -/
def text (template value metricType : String) (metricLabels resourceLabels : Members String) :
    String :=
  String.ofList
    (Template.expand (resolve? value metricType metricLabels resourceLabels) template.toList)

end Remark
end MetricFrames
