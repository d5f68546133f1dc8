import MetricFrames.Command.Arguments
import MetricFrames.Console.Report
import MetricFrames.Data.Columns
import MetricFrames.Frame.Writing
import MetricFrames.Service

/-!
# Printing results

Results are printed as tables, one for each frame, or as one JSON text. JSON has no numbers beyond
the finite ones, so all others are null there.
-/

namespace MetricFrames

/-- The name in JSON of a key: flags in small letters, timestamps in their ISO form, and numbers
that are not finite as if there were none. -/
def Data.plainKey : Data → String
  | .bool b => if b then "true" else "false"
  | .float .nan | .float (.infinite _) => Data.null.display
  | .time t => String.ofList t.isoText
  | d => d.display

mutual

/-- Data as JSON can hold it: numbers that are not finite are null, and all keys are texts. -/
def Data.plain : Data → Data
  | .float .nan | .float (.infinite _) => .null
  | .list items => .list (Data.plainItems items)
  | .object members => .object (Data.plainMembers members)
  | .mapping members => .object (Data.plainEntries [] members)
  | d => d

/-- The items of a list as JSON can hold them. -/
def Data.plainItems : List Data → List Data
  | [] => []
  | d :: ds => d.plain :: Data.plainItems ds

/-- The members of an object as JSON can hold them. -/
def Data.plainMembers : List (String × Data) → List (String × Data)
  | [] => []
  | (name, d) :: ms => (name, d.plain) :: Data.plainMembers ms

/-- The entries of a mapping as JSON can hold them; of two keys that become one name the later value
counts. -/
def Data.plainEntries (done : Members Data) : List (Data × Data) → Members Data
  | [] => done
  | (key, d) :: ms => Data.plainEntries (done.put key.plainKey d.plain) ms

end

namespace Service.Results

open Console

/-- Results as data. -/
def toData (rs : Service.Results) : Data :=
  .object [("responses", .object (rs.map fun (refId, r) => (refId, r.toData false)))]

/-- Results as lines of JSON. -/
def json (rs : Service.Results) : List (List Char) :=
  Text.splitAt '\n' (Emoji.replace (Json.indented 0 rs.toData.plain))

/-- What a frame without a name is called. -/
def unnamed : String := "frame"

/-- A frame as a table. -/
def table (refId : String) (f : Frame) : Table where
  title :=
    Report.labelled refId (if f.name = "" then unnamed else f.name) ++
      (" (" ++ toString f.rowCount ++ " rows)").toList
  headers := f.fields.map (·.name.toList)
  rows := (Columns.rows (f.fields.map (·.values))).map fun row => row.map Data.shown

/-- The lines of one result: its error, a note that there are no data, or its tables. -/
def linesOf (console : Nat) (refId : String) (r : QueryResult) :
    Except Fault (List (List Char)) := do
  let error := r.error.getD ""
  if error ≠ "" then
    Report.message console (Report.styled "red" (Report.labelled refId error))
  else if r.frames.isEmpty then
    Report.message console (Report.styled "yellow" (refId ++ ": no data").toList)
  else
    let tables ← r.frames.mapM fun f => (table refId f).render console
    return tables.flatten

/-- The lines of all results. -/
def tables (console : Nat) (rs : Service.Results) : Except Fault (List (List Char)) := do
  let shown ← rs.mapM fun (refId, r) => linesOf console refId r
  return shown.flatten

/-- Whether a result reports an error. -/
def hasError (rs : Service.Results) : Bool := rs.any fun (_, r) => r.error.getD "" ≠ ""

/-- The report of results: it is a failure if one of them reports an error. JSON is not wrapped. -/
def report (console : Nat) (form : Command.Form) (rs : Service.Results) : Except Fault Report := do
  let lines ←
    match form with
    | .json => pure rs.json
    | .tables => rs.tables console
  return ⟨lines, rs.hasError⟩

end Service.Results
end MetricFrames
