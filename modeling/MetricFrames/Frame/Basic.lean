import MetricFrames.Data.Basic

/-!
# Frames

A result is a table by columns: a frame has fields of equal length, in a time series frame a field
of times and a field of values. Fields carry labels and display settings, frames carry the request
that they answer.
-/

namespace MetricFrames

/-- A link next to a value. -/
structure DataLink where
  title : String
  targetBlank : Bool := false
  url : String
  deriving DecidableEq

/-- Display settings of a field. -/
structure FieldConfig where
  displayName : Option String := none
  unit : Option String := none
  links : List DataLink := []
  deriving DecidableEq

/-- A named column. -/
structure FrameField where
  name : String
  values : List Data := []
  labels : Option (Members String) := none
  config : Option FieldConfig := none

/-- What a frame says about its origin. -/
structure FrameOrigin where
  executedQuery : String := ""
  custom : Members Data := []

/-- A table by columns. -/
structure Frame where
  name : String := ""
  refId : String := ""
  fields : List FrameField := []
  origin : Option FrameOrigin := none

/-- The frames and the error of one query. -/
structure QueryResult where
  frames : List Frame := []
  error : Option String := none

namespace Frame

/-- The name of a field of times. -/
def timeFieldName : String := "Time"

/-- The name of a field of values before it is given one. -/
def valueFieldName : String := "Value"

/-- An empty frame of times and values. -/
def timeSeries (refId : String) (valueName : String := valueFieldName) : Frame :=
  { refId := refId, fields := [{ name := timeFieldName }, { name := valueName }] }

/-- How many rows a frame has: the length of its first field. -/
def rowCount (f : Frame) : Nat := ((f.fields.head?).map (·.values.length)).getD 0

/-- A row that does not have one value per field. -/
structure RowMismatch where
  values : Nat
  fields : Nat
  deriving DecidableEq

/-- The wording of a mismatch. -/
def RowMismatch.message (m : RowMismatch) : String :=
  "Row has " ++ toString m.values ++ " values but frame has " ++ toString m.fields ++ " fields"

/-- Adds a row. -/
def appendRow (f : Frame) (row : List Data) : Except RowMismatch Frame :=
  if row.length = f.fields.length then
    .ok { f with
      fields := List.zipWith (fun field v => { field with values := field.values ++ [v] })
        f.fields row }
  else .error ⟨row.length, f.fields.length⟩

/-- The field at a position. -/
def field (f : Frame) (i : Nat) : Except Fault FrameField :=
  match f.fields[i]? with
  | some field => .ok field
  | none => .error .indexOutOfRange

/-- Changes the field of values, the second one. -/
def modifyValueField (f : Frame) (change : FrameField → FrameField) : Frame :=
  { f with fields := f.fields.modify 1 change }

end Frame

namespace FrameField

/-- Shows a field under its own name. -/
def displayOwnName (field : FrameField) : FrameField :=
  { field with config := some { field.config.getD {} with displayName := some field.name } }

/-- The unit in which a unit of the service is displayed. -/
def displayUnits : List (String × String) := [
  ("bit", "bits"), ("By", "bytes"), ("s", "s"), ("min", "m"), ("h", "h"), ("d", "d"),
  ("us", "µs"), ("ms", "ms"), ("ns", "ns"), ("%", "percent"), ("percent", "percent"),
  ("MiBy", "mbytes"), ("By/s", "Bps"), ("GBy", "decgbytes")]

/-- The display unit of a unit of the service, if it has one. -/
def displayUnit? (unit : String) : Option String :=
  (displayUnits.find? fun u => u.1 == unit).map (·.2)

/-- The title of links to the metrics explorer. -/
def linkTitle : String := "View in Metrics Explorer"

/-- Adds a link to the metrics explorer, and the display unit if there is one. -/
def decorate (url unit : String) (field : FrameField) : FrameField :=
  let config := field.config.getD {}
  let link : DataLink := ⟨linkTitle, true, url⟩
  { field with config := some { config with
      links := config.links ++ [link]
      unit := (displayUnit? unit).orElse fun _ => config.unit } }

end FrameField

namespace Frame

/-- Shows a field under its own name; the field is counted from the end if the position is
negative. -/
def displayOwnName (f : Frame) (position : Int) : Except Fault Frame := do
  let _ ← atPosition f.fields position
  let i := if position < 0 then f.fields.length - position.natAbs else position.toNat
  return { f with fields := f.fields.modify i FrameField.displayOwnName }

/-- Gives a frame and its field of values a name, and the field its labels. A frame without a field
of values gets the name only. -/
def nameValueField (f : Frame) (name : String) (labels : Members String) : Frame :=
  { f with name := name }.modifyValueField fun field =>
    { field with name := name, labels := some labels }.displayOwnName

/-- Adds a link and a unit to the field of values. -/
def decorate (url unit : String) (f : Frame) : Frame :=
  f.modifyValueField (FrameField.decorate url unit)

end Frame
end MetricFrames
