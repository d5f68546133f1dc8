import MetricFrames.Data.Basic
import MetricFrames.Text.Search

/-!
# Command lines

A command line names a command, its options and its files. Options may stand anywhere after the
command; one that takes a value takes the next argument, whatever that is, unless the value is
attached to it. After two dashes nothing is an option. Of options that are given twice the last one
counts.
-/

namespace MetricFrames

/-- The forms in which results are printed. -/
inductive Command.Form where
  | tables
  | json
  deriving DecidableEq

/-- What a command line asks for. -/
inductive Command where
  | units
  | validate (batch : String)
  | showRequest (batch : String) (settings : Option String)
  | query (batch settings : String) (token : Option String) (form : Command.Form)
  deriving DecidableEq

/-- Why a command line asks for nothing that can be done. -/
inductive UsageProblem where
  | noCommand
  | unknownCommand (name : String)
  | unknownOption (argument : String)
  | valueMissing (option : String)
  | valueUnexpected (option : String)
  | optionMissing (option : String)
  | fileMissing
  | argumentUnexpected (argument : String)
  deriving DecidableEq

/-- The wording of a problem. -/
def UsageProblem.message : UsageProblem → String
  | .noCommand => "Missing command."
  | .unknownCommand name => "No such command '" ++ name ++ "'."
  | .unknownOption argument => "No such option: " ++ argument
  | .valueMissing option => "Option '--" ++ option ++ "' requires an argument."
  | .valueUnexpected option => "Option '--" ++ option ++ "' does not take a value."
  | .optionMissing option => "Missing option '--" ++ option ++ "'."
  | .fileMissing => "Missing argument 'BATCH_FILE'."
  | .argumentUnexpected argument => "Got unexpected extra argument (" ++ argument ++ ")"

namespace Command

/-- An option: its name, its letter, and whether it takes a value. -/
structure Choice where
  name : String
  letter : Option Char := none
  takesValue : Bool := true

/-- The option for help. -/
def helpChoice : Choice := { name := "help", takesValue := false }

/-- The options before the command. -/
def generalChoices : List Choice :=
  [helpChoice, { name := "verbose", letter := some 'v', takesValue := false }]

/-- The option that names the settings. -/
def settingsChoice : Choice := { name := "settings", letter := some 's' }

/-- The options of a query. -/
def queryChoices : List Choice :=
  [helpChoice, settingsChoice, { name := "token" }, { name := "output", letter := some 'o' }]

/-- The options that one argument gives: those that are complete with their values, and one that
still waits for its value. -/
structure Given where
  complete : Members String := []
  waiting : Option Choice := none

/-- The option with a name and perhaps an attached value. -/
def longOption (choices : List Choice) (body : List Char) : Except UsageProblem Given :=
  let (name, value) : List Char × Option (List Char) :=
    match Text.cut ['='] body with
    | some (name, value) => (name, some value)
    | none => (body, none)
  match choices.find? fun c => c.name.toList = name with
  | none => .error (.unknownOption (String.ofList ('-' :: '-' :: name)))
  | some c =>
    match value with
    | some value =>
      if c.takesValue then .ok { complete := [(c.name, String.ofList value)] }
      else .error (.valueUnexpected c.name)
    | none =>
      if c.takesValue then .ok { waiting := some c } else .ok { complete := [(c.name, "")] }

/-- The options with letters; what follows one that takes a value is the value. -/
def letterOptions (choices : List Choice) : List Char → Except UsageProblem Given
  | [] => .ok {}
  | l :: rest =>
    match choices.find? fun c => c.letter = some l with
    | none => .error (.unknownOption (String.ofList ['-', l]))
    | some c =>
      if c.takesValue then
        if rest.isEmpty then .ok { waiting := some c }
        else .ok { complete := [(c.name, String.ofList rest)] }
      else
        (letterOptions choices rest).map fun g => { g with complete := (c.name, "") :: g.complete }

/-- The options of an argument; none if it is no option. -/
def optionsOf? (choices : List Choice) (argument : String) : Option (Except UsageProblem Given) :=
  match argument.toList with
  | '-' :: '-' :: body => some (longOption choices body)
  | ['-'] => none
  | '-' :: letters => some (letterOptions choices letters)
  | _ => none

/-- What arguments hold: options with their values, and the other arguments in order. -/
structure Scanned where
  given : Members String := []
  others : List String := []

/-- Reads arguments. If `stops` is set, nothing after the first argument that is no option is read
as an option. -/
def scan (choices : List Choice) (stops : Bool) : List String → Except UsageProblem Scanned
  | [] => .ok {}
  | argument :: rest =>
    if argument = "--" then .ok { others := rest }
    else
      match optionsOf? choices argument with
      | none =>
        if stops then .ok { others := argument :: rest }
        else (scan choices stops rest).map fun s => { s with others := argument :: s.others }
      | some (.error p) => .error p
      | some (.ok ⟨complete, none⟩) =>
        (scan choices stops rest).map fun s => { s with given := complete ++ s.given }
      | some (.ok ⟨complete, some c⟩) =>
        match rest with
        | [] => .error (.valueMissing c.name)
        | value :: rest =>
          (scan choices stops rest).map fun s =>
            { s with given := complete ++ (c.name, value) :: s.given }

namespace Scanned

/-- The value of an option: the last one that is given. -/
def value? (s : Scanned) (name : String) : Option String := Members.get? name s.given.reverse

/-- Whether help is asked for. -/
def wantsHelp (s : Scanned) : Bool := Members.has helpChoice.name s.given

/-- Nothing, where no arguments are left. -/
def nothing (s : Scanned) : Except UsageProblem Unit :=
  match s.others with
  | [] => .ok ()
  | argument :: _ => .error (.argumentUnexpected argument)

/-- The only file. -/
def file (s : Scanned) : Except UsageProblem String :=
  match s.others with
  | [] => .error .fileMissing
  | [file] => .ok file
  | _ :: argument :: _ => .error (.argumentUnexpected argument)

end Scanned

/-- The form with a name; every other name stands for tables. -/
def Form.ofName (name : Option String) : Form := if name = some "json" then .json else .tables

/-- A query from what its arguments hold. -/
def queryOf (s : Scanned) : Except UsageProblem Command := do
  let batch ← s.file
  match s.value? settingsChoice.name with
  | none => .error (.optionMissing settingsChoice.name)
  | some settings => .ok (.query batch settings (s.value? "token") (.ofName (s.value? "output")))

/-- The options of a command and how it is made from what its arguments hold. -/
def grammar? : String → Option (List Choice × (Scanned → Except UsageProblem Command))
  | "units" => some ([helpChoice], fun s => s.nothing.map fun _ => .units)
  | "validate" => some ([helpChoice], fun s => s.file.map .validate)
  | "show-request" => some ([helpChoice, settingsChoice], fun s =>
      s.file.map fun batch => .showRequest batch (s.value? settingsChoice.name))
  | "query" => some (queryChoices, queryOf)
  | _ => none

/-- The command of a command line; none if it asks for help. -/
def ofArguments (arguments : List String) : Except UsageProblem (Option Command) := do
  let general ← scan generalChoices true arguments
  if general.wantsHelp then return none
  match general.others with
  | [] => .error .noCommand
  | name :: rest =>
    match grammar? name with
    | none => .error (.unknownCommand name)
    | some (choices, make) =>
      let s ← scan choices false rest
      if s.wantsHelp then return none
      return some (← make s)

/-- The files that a command reads. -/
def files : Command → List String
  | .units => []
  | .validate batch => [batch]
  | .showRequest batch settings => batch :: settings.toList
  | .query batch settings _ _ => [batch, settings]

/-- A command with a token for where none is given. -/
def withToken (token : Option String) : Command → Command
  | .query batch settings none form => .query batch settings token form
  | c => c

end Command
end MetricFrames
