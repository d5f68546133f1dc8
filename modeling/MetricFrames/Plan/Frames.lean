import MetricFrames.Frame.Histogram
import MetricFrames.Legend.SnakeCase
import MetricFrames.Plan.Basic
import MetricFrames.Failure
import MetricFrames.Series.Value

/-!
# Answers as frames

The answer to a plan is read series by series into frames: one frame for a series of numbers, one
for each bucket of a series of distributions. `Reading` is what was read so far, with the fault
that ended it, if one did; readings of the parts of an answer are put together by
`Reading.andThen`, which keeps what came before a fault. When all of an answer was read, its
frames get a link, a unit, and the labels of the whole answer.
-/

namespace MetricFrames

/-- The whole answer to a plan: series, or a table. -/
inductive QueryAnswer where
  | series (page : SeriesPage)
  | table (page : TablePage)

/-- Whether an answer has no series and no rows. -/
def QueryAnswer.isEmpty : QueryAnswer → Bool
  | .series page => page.series.isEmpty
  | .table page => page.rows.isEmpty

/-- The unit of an answer. -/
def QueryAnswer.unit : QueryAnswer → String
  | .series page => page.unit
  | .table page => page.unit

/-- What was read of an answer: frames, every label with its value, and the fault that ended the
reading. -/
structure Reading where
  frames : List Frame := []
  labels : List (String × String) := []
  fault : Option Fault := none

namespace Reading

/-- What is read after this; nothing if a fault ended it. -/
def andThen (a b : Reading) : Reading :=
  match a.fault with
  | some _ => a
  | none => ⟨a.frames ++ b.frames, a.labels ++ b.labels, b.fault⟩

/-- Readings of the parts of an answer, in order. -/
def all (parts : List Reading) : Reading := parts.foldr andThen {}

/-- Frames that a fault may have kept from being made. -/
def ofFrames : Except Fault (List Frame) → Reading
  | .ok frames => { frames := frames }
  | .error f => { fault := some f }

/-- Labels alone. -/
def ofLabels (labels : List (String × String)) : Reading := { labels := labels }

theorem andThen_assoc (a b c : Reading) : (a.andThen b).andThen c = a.andThen (b.andThen c) := by
  cases ha : a.fault <;> cases hb : b.fault <;> simp [andThen, ha, hb, List.append_assoc]

theorem andThen_empty (a : Reading) : a.andThen {} = a := by
  obtain ⟨frames, labels, fault⟩ := a
  cases fault <;> simp [andThen]

theorem empty_andThen (a : Reading) : andThen {} a = a := by simp [andThen]

theorem all_append (as bs : List Reading) : all (as ++ bs) = (all as).andThen (all bs) := by
  induction as with
  | nil => exact (empty_andThen _).symm
  | cons a as ih =>
    show a.andThen (all (as ++ bs)) = (a.andThen (all as)).andThen (all bs)
    rw [ih, andThen_assoc]

end Reading

namespace QueryPlan

/-! ### Frames of one series -/

/-- Where the frames of a series come from: the plan's id and legend, the request, and the type and
default name of the series. -/
structure FrameSource where
  refId : String
  legend : Legend
  executed : String
  metricType : String
  defaultName : String

/-- The frame of a series of numbers. -/
def FrameSource.valueFrame (s : FrameSource) (labels : Members String) (samples : List Sample) :
    Frame :=
  Frame.ofSamples s.refId s.executed (s.legend.name s.metricType s.defaultName labels []) labels
    samples

/-- The frame of one bucket; the bound is a further label. -/
def FrameSource.bucketFrame (s : FrameSource) (labels : Members String) (b : Bucket) : Frame :=
  Frame.ofSamples s.refId s.executed
    (s.legend.name s.metricType s.defaultName labels [("bucket", b.bound)])
    (labels.put "bucket" b.bound) b.samples

/-- The frames of a series of distributions. -/
def FrameSource.bucketFrames (s : FrameSource) (labels : Members String)
    (points : List (Timestamp × Distribution)) : Except Fault (List Frame) :=
  (Histogram.buckets points).map fun buckets => buckets.map (s.bucketFrame labels)

/-- The type of values that are distributions. -/
def distributionType : String := "DISTRIBUTION"

/-! ### Series of a list -/

/-- The labels of one series: by name, and every pair of name and value. -/
structure SeriesLabels where
  byName : Members String := []
  seen : List (String × String) := []

namespace SeriesLabels

/-- Gives a label a value. -/
def record (l : SeriesLabels) (name value : String) : SeriesLabels :=
  ⟨l.byName.put name value, l.seen ++ [(name, value)]⟩

/-- Adds a list of values to a label, after the value that it has; each item is seen by itself. -/
def extend (l : SeriesLabels) (name : String) (items : List String) : SeriesLabels :=
  let joined := String.intercalate ", " items
  let earlier := (l.byName.get? name).getD ""
  ⟨l.byName.put name (if earlier = "" then joined else earlier ++ ", " ++ joined),
    l.seen ++ items.map fun item => (name, item)⟩

/-- Adds a member of the metadata: a flag, a text or a list; anything else is left out. -/
def addMetadata (l : SeriesLabels) (name : String) : Data → SeriesLabels
  | .bool b => l.record name (if b then "true" else "false")
  | .text s => l.record name s
  | .list items => l.extend name (items.map Data.display)
  | _ => l

/-- Adds the labels of a metric or resource under a name space. -/
def addLabels (l : SeriesLabels) (space : String) (labels : Members String) : SeriesLabels :=
  labels.foldl (fun l (name, value) => l.record (space ++ name) value) l

end SeriesLabels

/-- The name space of the labels of a metric. -/
def metricSpace : String := "metric.label."

/-- The name space of the labels of a resource. -/
def resourceSpace : String := "resource.label."

/-- The labels of a series: the type of its resource, the labels of the metric and the resource, and
the metadata. -/
def seriesLabels (s : Series) : SeriesLabels :=
  let labels := ({} : SeriesLabels).record "resource.type" s.resource.type
  let labels := labels.addLabels metricSpace s.metric.labels
  let labels := labels.addLabels resourceSpace s.resource.labels
  s.metadata.foldl (fun labels (kind, members) =>
    members.foldl (fun labels (name, d) =>
      labels.addMetadata (SnakeCase.ofString ("metadata." ++ kind ++ "." ++ name)) d) labels)
    labels

/-- The default name of a series: the metric type and the values of the labels that tell it from its
siblings, which are all of the metric's if nothing is grouped, else the grouped ones. -/
def seriesName (groupBys : List String) (s : Series) : String :=
  let metric := s.metric.labels.filter fun (name, _) =>
    groupBys.isEmpty || groupBys.contains (metricSpace ++ name)
  let resource := s.resource.labels.filter fun (name, _) =>
    groupBys.contains (resourceSpace ++ name)
  String.join (s.metric.type :: (metric ++ resource).map fun (_, value) => " " ++ value)

/-- The fields by which a plan groups. -/
def groupBys (p : QueryPlan) : List String :=
  match p.shape with
  | .filter _ groupBys => groupBys
  | _ => []

/-- Reads one series. -/
def readSeries (p : QueryPlan) (executed : String) (s : Series) : Reading :=
  let labels := seriesLabels s
  let source : FrameSource :=
    ⟨p.refId, p.legend, executed, s.metric.type, seriesName p.groupBys s⟩
  let frames :=
    if s.valueType = distributionType then
      source.bucketFrames labels.byName
        (s.points.reverse.map fun point => (point.interval.stop, point.value.distribution))
    else
      .ok [source.valueFrame labels.byName
        (s.points.reverse.map fun point => ⟨point.interval.stop, point.value.number s.valueType⟩)]
  (Reading.ofLabels labels.seen).andThen (.ofFrames frames)

/-! ### Rows of a table -/

/-- The item at a position. -/
def itemAt {α : Type} (items : List α) (n : Nat) : Except Fault α :=
  match items[n]? with
  | some item => .ok item
  | none => .error .indexOutOfRange

/-- The name of a column's label: `resource.project_id` becomes `resource.label.project_id`. -/
def columnLabel (d : LabelDescriptor) : String :=
  String.ofList
    (Text.replaceFirst ['.'] ".label.".toList (SnakeCase.ofName d.key.toList))

/-- The labels of a row, by position. -/
def rowLabels (t : TableDescriptor) (row : TableRow) : Except Fault (List (String × String)) :=
  t.labels.zipIdx.mapM fun (d, n) =>
    (itemAt row.labels n).map fun v => (columnLabel d, d.labelText v)

/-- The labels by name, of which the last value counts. -/
def byName (labels : List (String × String)) : Members String :=
  labels.foldl (fun ms (name, value) => ms.put name value) []

/-- The label that names the column of a value. -/
def columnNameLabel : String := "metric.name"

/-- The frames of one column of a row. -/
def columnFrames (s : FrameSource) (labels : Members String) (d : PointDescriptor) (n : Nat)
    (row : TableRow) : Except Fault (List Frame) := do
  let values ← row.points.reverse.mapM fun point =>
    (itemAt point.values n).map fun v => (point.interval.stop, v)
  if d.valueType = distributionType then
    s.bucketFrames labels (values.map fun (time, v) => (time, v.distribution))
  else
    return [s.valueFrame labels (values.map fun (time, v) => ⟨time, v.number d.valueType⟩)]

/-- Reads one column of a row. -/
def readColumn (p : QueryPlan) (executed : String) (labels : Members String) (row : TableRow)
    (d : PointDescriptor) (n : Nat) : Reading :=
  let source : FrameSource := ⟨p.refId, p.legend, executed, d.key, d.key⟩
  (Reading.ofLabels [(columnNameLabel, d.key)]).andThen
    (.ofFrames (columnFrames source (labels.put columnNameLabel d.key) d n row))

/-- Reads one row. -/
def readRow (p : QueryPlan) (executed : String) (t : TableDescriptor) (row : TableRow) : Reading :=
  match rowLabels t row with
  | .error f => { fault := some f }
  | .ok labels =>
    (Reading.ofLabels labels).andThen
      (.all (t.points.zipIdx.map fun (d, n) => readColumn p executed (byName labels) row d n))

/-! ### Whole answers -/

/-- Reads an answer. -/
def readParts (p : QueryPlan) (executed : String) : QueryAnswer → Reading
  | .series page => .all (page.series.map (p.readSeries executed))
  | .table page => .all (page.rows.map (p.readRow executed page.descriptor))

/-- All values of each label, sorted and without repetition; labels in the order in which they were
first seen. -/
def labelValues (labels : List (String × String)) : Members (List String) :=
  let names := (labels.map (·.1)).eraseDups
  names.map fun name =>
    (name, (((labels.filter fun l => l.1 == name).map (·.2)).eraseDups).mergeSort (· ≤ ·))

/-- What every frame of an answer says about the whole: the labels, and for series the alignment
period and the grouping. -/
def custom (p : QueryPlan) (labels : List (String × String)) : Members Data :=
  let values : Data := .object
    ((labelValues labels).map fun (name, values) => (name, .list (values.map Data.text)))
  match p.shape with
  | .written .. => [("labels", values)]
  | _ => [
    ("alignmentPeriod", .text (p.params.get "aggregation.alignmentPeriod")),
    ("labels", values),
    ("groupBys", .list (p.groupBys.map Data.text))]

/-- The frame with what it says about the whole answer. -/
def withCustom (custom : Members Data) (f : Frame) : Frame :=
  { f with origin := f.origin.map fun origin => { origin with custom := custom } }

/-- Gives the frames of an answer that was read to its end their link, unit and labels. -/
def decorate (p : QueryPlan) (ranIn : Data) (answer : QueryAnswer) (r : Reading) :
    Except Fault (List Frame) :=
  if answer.isEmpty then .ok r.frames
  else
    (p.link ranIn).map fun url =>
      r.frames.map fun (f : Frame) => withCustom (p.custom r.labels) (f.decorate url answer.unit)

/-- A fault that arose while an answer was read: it counts against the query or ends the batch. -/
def readingFailure (refId : String) (f : Fault) : Failure :=
  if f.isUnreadable then .query (.unreadable refId f) else .fault f

/-- The frames of an answer to a plan that ran in the project `ranIn`. After a failure they are the
frames that were complete before it. -/
def frames (p : QueryPlan) (ranIn : Data) (executed : String) (answer : QueryAnswer) :
    List Frame × Option Failure :=
  let r := p.readParts executed answer
  match r.fault with
  | some f => (r.frames, some (readingFailure p.refId f))
  | none =>
    match p.decorate ranIn answer r with
    | .ok frames => (frames, none)
    | .error f => (r.frames, some (.fault f))

end QueryPlan
end MetricFrames
