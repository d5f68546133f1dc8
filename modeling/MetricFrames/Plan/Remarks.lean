import MetricFrames.Plan.Frames

/-!
# Answers as remarks

The points of an answer become remarks on a chart: one frame with a row for each point, in which the
title and the text of the query are expanded with the value and the labels of the point.
-/

namespace MetricFrames

/-- The templates of a remark. -/
structure RemarkTemplates where
  title : String
  text : String

/-- A remark: when, and its title and text. -/
structure RemarkRow where
  time : Timestamp
  title : String
  text : String
  deriving DecidableEq

/-- The remark on a point with a value and labels. -/
def RemarkTemplates.row (r : RemarkTemplates) (time : Timestamp) (value metricType : String)
    (metricLabels resourceLabels : Members String) : RemarkRow :=
  ⟨time, Remark.text r.title value metricType metricLabels resourceLabels,
    Remark.text r.text value metricType metricLabels resourceLabels⟩

/-- The frame of some remarks; there are no tags. -/
def Frame.ofRemarks (refId : String) (rows : List RemarkRow) : Frame :=
  { refId := refId
    fields := [
      { name := "time", values := rows.map fun r => .time r.time },
      { name := "title", values := rows.map fun r => .text r.title },
      { name := "tags", values := rows.map fun _ => .text "" },
      { name := "text", values := rows.map fun r => .text r.text }] }

namespace QueryPlan

/-- The remarks on the points of one series. -/
def seriesRemarks (templates : RemarkTemplates) (s : Series) : List RemarkRow :=
  s.points.reverse.map fun point =>
    templates.row point.interval.stop (point.value.text s.valueType) s.metric.type
      s.metric.labels s.resource.labels

/-- The labels of a table whose name starts with a word and a dot, without them. -/
def labelsUnder (word : String) (labels : List (String × String)) : Members String :=
  labels.foldl (fun ms (name, value) =>
    match Text.after? (word.toList ++ ['.']) name.toList with
    | some rest => ms.put (String.ofList rest) value
    | none => ms) []

/-- The labels of a row under the names of their columns. -/
def rowNames (t : TableDescriptor) (row : TableRow) : Except Fault (List (String × String)) :=
  t.labels.zipIdx.mapM fun (d, n) =>
    (itemAt row.labels n).map fun v => (SnakeCase.ofString d.key, d.labelText v)

/-- The remarks on the points of one column of a row. -/
def columnRemarks (templates : RemarkTemplates) (labels : List (String × String)) (row : TableRow)
    (d : PointDescriptor) (n : Nat) : Except Fault (List RemarkRow) :=
  row.points.reverse.mapM fun point =>
    (itemAt point.values n).map fun v =>
      templates.row point.interval.stop (v.text d.valueType) d.key (labelsUnder "metric" labels)
        (labelsUnder "resource" labels)

/-- The remarks on the points of one row. -/
def rowRemarks (templates : RemarkTemplates) (t : TableDescriptor) (row : TableRow) :
    Except Fault (List RemarkRow) := do
  let labels ← rowNames t row
  let columns ← t.points.zipIdx.mapM fun (d, n) => columnRemarks templates labels row d n
  return columns.flatten

/-- All remarks on an answer. -/
def remarkRows (templates : RemarkTemplates) : QueryAnswer → Except Fault (List RemarkRow)
  | .series page => .ok (page.series.flatMap (seriesRemarks templates))
  | .table page =>
    (page.rows.mapM (rowRemarks templates page.descriptor)).map List.flatten

/-- The frame of remarks on an answer to a plan. -/
def remarks (p : QueryPlan) (templates : RemarkTemplates) (answer : QueryAnswer) :
    List Frame × Option Failure :=
  match remarkRows templates answer with
  | .ok rows => ([Frame.ofRemarks p.refId rows], none)
  | .error f => ([], some (.query (.unreadableRemarks p.refId f)))

end QueryPlan
end MetricFrames
