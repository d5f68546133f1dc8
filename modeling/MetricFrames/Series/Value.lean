import MetricFrames.Binary64.Reading
import MetricFrames.Binary64.Text
import MetricFrames.Series.Basic

/-!
# Values of points

A point has a number whatever its declared type, and a text for remarks.
-/

namespace MetricFrames.TypedValue

/-- The number of a value of a declared type. A count that is not a number falls back to the
floating-point field. -/
def number (v : TypedValue) (valueType : String) : Binary64 :=
  if valueType = "INT64" then (Binary64.readLenient? v.int64.toList).getD v.double
  else if valueType = "BOOL" then Binary64.ofInt (if v.bool then 1 else 0)
  else v.double

/-- The text of a value of a declared type. -/
def text (v : TypedValue) (valueType : String) : String :=
  if valueType = "STRING" then v.string
  else String.ofList (v.number valueType).fixedSix

end MetricFrames.TypedValue
