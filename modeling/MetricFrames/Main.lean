import MetricFrames.Command.Running

/-!
# The command line

Reads the files that a command names, runs it, and prints its report. No transport is built in, so a
query that would have to ask a server reports that there is none.
-/

namespace MetricFrames

/-- The variable that holds a token for queries that are given none. -/
def tokenVariable : String := "MONF_ACCESS_TOKEN"

/-- The variable that holds the width of the console. -/
def widthVariable : String := "COLUMNS"

/-- The width of a console that is not known. -/
def usualWidth : Nat := 80

/-- What a server answers that cannot be reached. -/
def unreachable (_ : List Web.Request) (_ : Web.Request) : Web.Answer :=
  .failed "no transport is available"

/-- Surroundings without servers. -/
def offline : Surroundings where
  service := unreachable
  metadata := unreachable
  metadataAddress := Credentials.defaultAddress
  now := .zero false

/-- Those of the named files that exist, under their plain names. -/
def readFiles : List String → IO (Members String)
  | [] => return []
  | path :: paths => do
    let files ← readFiles paths
    let name := FileSet.plainPath path
    try return (name, ← IO.FS.readFile name) :: files
    catch _ => return files

end MetricFrames

open MetricFrames in
/-- Runs the command line. -/
def main (arguments : List String) : IO UInt32 := do
  match Command.ofArguments arguments with
  | .error problem =>
    IO.eprintln ("Error: " ++ problem.message)
    return 2
  | .ok none =>
    IO.println "Usage: monf [OPTIONS] COMMAND [ARGS]... (validate, show-request, query, units)"
    return 0
  | .ok (some command) =>
    let command := command.withToken (← IO.getEnv tokenVariable)
    let console := ((← IO.getEnv widthVariable).bind String.toNat?).getD usualWidth
    let outcome := command.run console { files := ← readFiles command.files } offline
    match outcome.report with
    | .ok report =>
      IO.print report.text
      return UInt32.ofNat report.exitCode
    | .error f =>
      IO.eprintln f.message
      return 1
