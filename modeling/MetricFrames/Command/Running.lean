import MetricFrames.Command.Preview
import MetricFrames.Command.Results
import MetricFrames.Files.Loading

/-!
# Running commands

A command reads its files, does its work, and comes to a report for a console of some width. A file
that cannot be loaded, a batch that cannot be built and a query that fails as a whole are problems,
which are reported. A fault that nobody handles leaves no report.
-/

namespace MetricFrames.Command

open Console

/-- Why a command ends early: a problem that is reported under a label, or a fault. -/
inductive Stop where
  | problem (label message : String)
  | fault (f : Fault)
  deriving DecidableEq

/-- A step of a command. -/
abbrev Step (α : Type) := Except Stop α

/-- A fault ends a command. -/
def orFault {α : Type} (e : Except Fault α) : Step α := e.mapError .fault

/-- A failure is a problem unless it is a fault. -/
def orFailure {α : Type} (label : String) (e : Except Failure α) : Step α :=
  e.mapError fun
    | .fault f => .fault f
    | failure => .problem label failure.message

/-- A file that cannot be loaded is a problem, but for a path that names no file, for a reader that
ends in a fault other than that of a value, and for a value of a type that nobody expects. -/
def orLoad {α : Type} (e : Except LoadProblem α) : Step α :=
  e.mapError fun
    | .notIterable f | .noFile f => .fault f
    | .unread f =>
      if f.category = .value then .problem "Error loading batch" f.message else .fault f
    | problem => .problem "Error loading batch" problem.message

/-- A path may not hold the character that ends paths. -/
def checkPath (path : String) : Step Unit :=
  if path.contains (Char.ofNat 0) then .error (.fault .nullInPath) else .ok ()

/-- Loads a batch for the datasource in a file, or for an empty one. -/
def load (files : FileSet) (batch : String) (settings : Option String) : Step Batch := do
  checkPath batch
  settings.forM checkPath
  match settings with
  | none => orLoad (Batch.load files batch)
  | some path =>
    let s ← orLoad (Settings.load files path)
    orLoad (Batch.load files batch s)

/-- The plans of a batch. -/
def plans (b : Batch) : Step (List QueryPlan) :=
  orFailure "Invalid batch" (QueryPlan.ofBatch b.queries)

/-- Lists the units that have a name of their own on display. -/
def unitTable (console : Nat) : Step Report := do
  let rows := FrameField.displayUnits.map fun (source, target) => [source.toList, target.toList]
  let table : Table := ⟨"Units".toList, ["Cloud Monitoring".toList, "Display".toList], rows⟩
  return { lines := ← orFault (table.render console) }

/-- Checks that a batch can be built. -/
def validation (console : Nat) (files : FileSet) (batch : String) : Step Report := do
  let ps ← plans (← load files batch none)
  let text := "Validated " ++ toString ps.length ++ " queries successfully!"
  return { lines := ← orFault (Report.message console (Report.styled "green" text.toList)) }

/-- Shows what a batch would ask for. -/
def previews (console : Nat) (files : FileSet) (batch : String) (settings : Option String) :
    Step Report := do
  let b ← load files batch settings
  let shown ← (← plans b).mapM fun p => orFault (p.preview b.datasource >>= Preview.lines console)
  return { lines := shown.flatten }

/-- The host for a command: the token, if there is one, serves every datasource. -/
def host (token : Option String) : Host :=
  match token with
  | none | some "" => {}
  | some token => { token := some fun _ => token }

/-- What a command comes to, and the requests that it sent. -/
structure Outcome where
  report : Except Fault Report
  sent : List Web.Request := []

/-- Reports the problem with which a command ended. -/
def settled (console : Nat) : Step Report → Except Fault Report
  | .ok r => .ok r
  | .error (.fault f) => .error f
  | .error (.problem label message) => do
    let lines ← Report.message console (Report.styled "red" (Report.labelled label message))
    return { lines := lines, failed := true }

/-- Runs a batch. -/
def answers (console : Nat) (s : Surroundings) (b : Batch) (token : Option String) (form : Form) :
    Outcome :=
  let outcome := Service.queryData (host token) s {} b
  let report : Step Report := do
    let rs ← orFailure "Query error" outcome.result
    orFault (rs.report console form)
  ⟨settled console report, outcome.exchange.sent⟩

/-- Runs a command on a console of a width, with the files that there are. -/
def run (console : Nat) (files : FileSet) (s : Surroundings) : Command → Outcome
  | .units => ⟨settled console (unitTable console), []⟩
  | .validate batch => ⟨settled console (validation console files batch), []⟩
  | .showRequest batch settings => ⟨settled console (previews console files batch settings), []⟩
  | .query batch settings token form =>
    match load files batch (some settings) with
    | .ok b => answers console s b token form
    | .error stop => ⟨settled console (.error stop), []⟩

end MetricFrames.Command
