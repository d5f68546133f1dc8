import MetricFrames.Data.Basic
import MetricFrames.Time.Timestamp

/-!
# Answers of the monitoring service

Two shapes of answers. A list of series has the metric and the resource of each series with their
labels and typed points. A table has one descriptor for all rows, and each row gives its labels and
the values of its points by position.
-/

namespace MetricFrames

/-- A span of time that ends at `stop`. -/
structure Interval where
  start : Option Timestamp := none
  stop : Timestamp

/-- Buckets of equal width. -/
structure LinearBuckets where
  finiteBuckets : Int := 0
  width : Binary64 := .zero false
  offset : Binary64 := .zero false

/-- Buckets that grow by a factor. -/
structure ExponentialBuckets where
  finiteBuckets : Int := 0
  growthFactor : Binary64 := .zero false
  scale : Binary64 := .zero false

/-- Buckets with given bounds. -/
structure ExplicitBuckets where
  bounds : List Binary64 := []

/-- The layout of a histogram. -/
structure BucketOptions where
  linear : Option LinearBuckets := none
  exponential : Option ExponentialBuckets := none
  explicit : Option ExplicitBuckets := none

/-- A histogram; its counts are texts. -/
structure Distribution where
  count : String := "0"
  bucketOptions : BucketOptions := {}
  bucketCounts : List String := []

/-- A value of some type, with a field for each. -/
structure TypedValue where
  double : Binary64 := .zero false
  int64 : String := ""
  bool : Bool := false
  string : String := ""
  distribution : Distribution := {}

/-- A value and when it was measured. -/
structure Point where
  interval : Interval
  value : TypedValue := {}

/-- A type with labels: that of a metric or of a resource. -/
structure Labelled where
  type : String := ""
  labels : Members String := []

/-- One series of a list. Its points come newest first. -/
structure Series where
  metric : Labelled := {}
  resource : Labelled := {}
  metricKind : String := ""
  valueType : String := ""
  points : List Point := []
  metadata : Members (Members Data) := []

/-- A page of series. -/
structure SeriesPage where
  series : List Series := []
  nextPageToken : String := ""
  unit : String := ""

/-- The name and type of a label of a table. -/
structure LabelDescriptor where
  key : String
  valueType : String := "STRING"

/-- The name, type and unit of a value of a table. -/
structure PointDescriptor where
  key : String
  valueType : String := ""
  metricKind : String := ""
  unit : String := ""

/-- What the positions in the rows of a table mean. -/
structure TableDescriptor where
  labels : List LabelDescriptor := []
  points : List PointDescriptor := []

/-- A label of a row, with a field for each type. -/
structure LabelValue where
  bool : Bool := false
  int64 : String := ""
  string : String := ""

/-- The values of a row at one time. -/
structure RowPoint where
  values : List TypedValue := []
  interval : Interval

/-- One row of a table. Its points come newest first. -/
structure TableRow where
  labels : List LabelValue := []
  points : List RowPoint := []

/-- A page of a table. -/
structure TablePage where
  descriptor : TableDescriptor := {}
  rows : List TableRow := []
  nextPageToken : String := ""

/-- The unit of a table: the first one that is given. -/
def TablePage.unit (p : TablePage) : String :=
  ((p.descriptor.points.find? fun d => d.unit ≠ "").map (·.unit)).getD ""

/-- The text of a label according to its type. -/
def LabelDescriptor.labelText (d : LabelDescriptor) (v : LabelValue) : String :=
  if d.valueType = "BOOL" then (if v.bool then "true" else "false")
  else if d.valueType = "INT64" then v.int64
  else v.string

end MetricFrames
