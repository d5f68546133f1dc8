import MetricFrames.Datasource.Settings
import MetricFrames.Files.Basic
import MetricFrames.Files.RefId

/-!
# Loading settings and batches

A settings file describes one datasource, a batch file some queries over one range of time. What a
batch file says of a query besides its id, interval and count of points is the payload. A query
without an id is named by its position, and takes what else it leaves out from the batch.
-/

namespace MetricFrames

/-- The name of the secrets in a file. -/
def Settings.fileSecrets : String := "secureJsonData"

/-- The members of settings in a file, with the secrets under their usual name. -/
def Settings.ofFile (ms : Members Data) : Members Data :=
  match ms.get? fileSecrets with
  | some secrets => (ms.without [fileSecrets]).put "decryptedSecureJsonData" secrets
  | none => ms

/-- Loads settings. -/
def Settings.load (files : FileSet) (path : String) : Except LoadProblem Settings := do
  let file := FileSet.plainPath path
  let d ← files.load file
  match ((d.members?.bind fun ms => ms.get? "datasource").bind Data.members?) with
  | none => .error (.noDatasource file)
  | some ms =>
    match (ofMembers (ofFile ms)).report model with
    | .ok s => .ok s
    | .error rejection => .error (.badSettings file rejection)

namespace Batch

/-- What a batch file says of a query besides its payload. -/
def envelopeNames : List String := ["refId", "intervalMs", "maxDataPoints"]

/-- The payload of a query. -/
def payloadOf : Data → Data
  | .object ms => .object (Members.without envelopeNames ms)
  | .mapping entries =>
    .mapping (entries.filter fun
      | (.text name, _) => !envelopeNames.contains name
      | _ => true)
  | d => d

/-- A setting of a query, or else of the batch, or else zero. -/
def inherited (name : String) (entry batch : Members Data) : Data :=
  ((entry.get? name).orElse fun _ => batch.get? name).getD (.int 0)

/-- The query at a position, from what stands there. -/
def queryOf (batch : Members Data) (range : TimeRange) (position : Nat) (d : Data) :
    Option (Except Rejection BatchQuery) :=
  d.members?.map fun entry =>
    let refId := ((entry.get? "refId").getD .null).orElse (.text (RefId.ofIndex position))
    let ms : Members Data := [
      ("ref_id", refId),
      ("interval_ms", inherited "intervalMs" entry batch),
      ("max_data_points", inherited "maxDataPoints" entry batch),
      ("payload", payloadOf d)]
    (BatchQuery.ofMembers (fun _ => .ok range) ms).report BatchQuery.model

/-- The queries of a list, up to the first that is none. -/
def queriesOf (file : String) (batch : Members Data) (range : TimeRange) (position : Nat) :
    List Data → Except LoadProblem (List BatchQuery)
  | [] => .ok []
  | d :: ds =>
    match queryOf batch range position d with
    | none => .error (.queryNoMapping (position + 1) file)
    | some (.error rejection) => .error (.badQuery (position + 1) file rejection)
    | some (.ok q) => (queriesOf file batch range (position + 1) ds).map (q :: ·)

/-- The items of a value that stands for several: a list, the characters of a text, or the keys of a
mapping. -/
def itemsOf : Data → Except Fault (List Data)
  | .list items => .ok items
  | .text s => .ok (s.toList.map fun c => .text (String.ofList [c]))
  | .object ms => .ok (ms.map fun m => .text m.1)
  | .mapping entries => .ok (entries.map (·.1))
  | d => .error (.notIterable d.typeName)

/-- The batch in the members of a file. -/
def ofFile (file : String) (settings : Settings) (ms : Members Data) :
    Except LoadProblem Batch := do
  let queries := (ms.get? "queries").getD .null
  if !queries.isGiven then .error (.noQueries file)
  else
    let range := ((ms.get? "range").getD .null).orElse (.object [])
    match (TimeRange.decoder range).report TimeRange.model with
    | .error rejection => .error (.badRange file rejection)
    | .ok range =>
      match itemsOf queries with
      | .error f => .error (.notIterable f)
      | .ok items => (queriesOf file ms range 0 items).map fun queries => ⟨settings, queries⟩

/-- Loads a batch for a datasource; without one it is for an empty datasource. -/
def load (files : FileSet) (path : String) (settings : Settings := {}) :
    Except LoadProblem Batch := do
  let file := FileSet.plainPath path
  let d ← files.load file
  match d.members? with
  | none => .error (.noMapping file)
  | some ms => ofFile file settings ms

end Batch
end MetricFrames
