import MetricFrames.Frame.Basic

/-!
# Frames of samples

A sample is a number and the time it was measured. A named frame of samples has their times in its
first field and their numbers in its second one, row by row.
-/

namespace MetricFrames

/-- A number and when it was measured. -/
structure Sample where
  time : Timestamp
  value : Binary64

/-- The named frame of some samples, which answers the request `executed`. -/
def Frame.ofSamples (refId executed name : String) (labels : Members String)
    (samples : List Sample) : Frame :=
  let times : FrameField := { name := timeFieldName, values := samples.map fun s => .time s.time }
  let values : FrameField :=
    { name := valueFieldName, values := samples.map fun s => .float s.value }
  let frame : Frame :=
    { refId := refId, fields := [times, values], origin := some { executedQuery := executed } }
  frame.nameValueField name labels

theorem Frame.fields_ofSamples (refId executed name : String) (labels : Members String)
    (samples : List Sample) :
    (Frame.ofSamples refId executed name labels samples).fields =
      [{ name := timeFieldName, values := samples.map fun s => .time s.time },
        { name := name, values := samples.map fun s => .float s.value, labels := some labels,
          config := some { displayName := some name } }] := rfl

end MetricFrames
