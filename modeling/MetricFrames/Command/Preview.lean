import MetricFrames.Console.Report
import MetricFrames.Plan.Running

/-!
# Previews

A preview shows the first request of a plan before anything is sent: its method, its path, and its
parameters or its body. The default project comes from the settings; where they name none, a
placeholder stands for it.
-/

namespace MetricFrames

/-- What a request carries. -/
inductive Preview.Content where
  | params (items : List (String × String))
  | body (d : Data)

/-- A request that a plan would make. -/
structure Preview where
  refId : String
  method : String
  path : String
  content : Preview.Content

/-- What stands for a default project that the settings do not name. -/
def Preview.unknownProject : String := "<default project>"

/-- The first request of a plan for a datasource. -/
def QueryPlan.preview (p : QueryPlan) (s : Settings) : Except Fault Preview := do
  let project :=
    if p.projectName ≠ "" then p.projectName
    else (s.defaultProject.orElse (.text Preview.unknownProject)).display
  match p.shape with
  | .written .. =>
    let executed ← p.executed
    return ⟨p.refId, "POST", queryPath project, .body (.object [("query", .text executed)])⟩
  | _ => return ⟨p.refId, "GET", seriesPath project, .params p.params.items⟩

namespace Preview

/-- What a preview is titled. -/
def title (p : Preview) : List Char := (p.refId ++ ": " ++ p.method ++ " " ++ p.path).toList

/-- The lines of a preview on a console: parameters as a table, a body as indented JSON, and an
empty line. -/
def lines (console : Nat) (p : Preview) : Except Fault (List (List Char)) := do
  let shown ←
    match p.content with
    | .params items =>
      (Console.Table.mk p.title ["Param".toList, "Value".toList]
        (items.map fun (key, value) => [key.toList, value.toList])).render console
    | .body d => do
      let heading ← Console.Report.message console (Console.Report.styled "bold" p.title)
      pure (heading ++ Console.Report.printed console (Json.indented 0 d))
  return shown ++ [[]]

end Preview
end MetricFrames
