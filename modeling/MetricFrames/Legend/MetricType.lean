import MetricFrames.Text.Search
import MetricFrames.Text.Word

/-!
# Metric types

A metric type names the service that reports the metric and the metric's own name:
`service.googleapis.com/name` or `service.io/name`.
-/

namespace MetricFrames.MetricType

/-- The name after a dot and one of the two domains, up to the end of the line. -/
def nameAfter? (domain : String) (s : List Char) : Option (List Char) :=
  match Text.after? ('.' :: domain.toList ++ ['/']) s with
  | none => none
  | some rest =>
    let name := rest.takeWhile (· != '\n')
    if name.isEmpty then none else some name

/-- Service and name, if a service starts here. -/
def partsHere? (s : List Char) : Option (List Char × List Char) :=
  let (service, rest) := s.span Text.isWord
  if service.isEmpty then none
  else
    match nameAfter? "googleapis.com" rest with
    | some name => some (service, name)
    | none => (nameAfter? "io" rest).map fun name => (service, name)

/-- Service and name of a metric type: those of the first place where both stand. -/
def parts? : List Char → Option (List Char × List Char)
  | [] => none
  | c :: s =>
    match partsHere? (c :: s) with
    | some found => some found
    | none => parts? s

/-- What `metric.name` and `metric.service` stand for. -/
def resolve? (name metricType : List Char) : Option (List Char) :=
  match parts? metricType with
  | none => none
  | some (service, metricName) =>
    if name = "metric.name".toList then some metricName
    else if name = "metric.service".toList then some service
    else none

end MetricFrames.MetricType
