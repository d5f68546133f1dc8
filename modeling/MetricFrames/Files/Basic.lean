import MetricFrames.Data.Text
import MetricFrames.Decode.Basic
import MetricFrames.Json.Reading
import MetricFrames.Yaml.Resolution

/-!
# Files

Settings and batches are kept in files, as JSON if the name says so and as YAML otherwise. Files are
known by their paths, which also tell what directories there are; a file that cannot be loaded is a
problem with a cause. How a text of either format is read is left to a reader, which comes with the
files: it finds data, or that there are none, or it ends in a fault of any kind.
-/

namespace MetricFrames

/-! ### Readers -/

/-- Why there are no data in a text: it is not of its format, it has the form of a value that there
is not, or the reading of it ended in another fault. -/
inductive Unread where
  | malformed
  | value (reason : String)
  | fault (f : Fault)
  deriving DecidableEq

/-- A way to read the texts of a format. Data are trees: a set counts as the list of its items,
bytes as the text that they stand for, and a collection inside itself is unfolded as far as anyone
looks. -/
abbrev Reader := List Char → Except Unread Data

/-- Reads JSON. -/
def Reader.json : Reader := fun text =>
  (Json.read .document text).mapError fun p =>
    match p.cause with
    | .digits count => .fault (.tooManyDigits count)
    | _ => .malformed

/-- Reads plain YAML: collections and scalars. Tags, anchors, directives and explicit keys are left to
other readers. -/
def Reader.plainYaml : Reader := fun text =>
  (Yaml.read text).mapError fun
    | .malformed => .malformed
    | .calendar reason => .value reason
    | .number f => .fault f

/-- Files by name, and the readers for the two formats. -/
structure FileSet where
  files : Members String
  json : Reader := .json
  yaml : Reader := .plainYaml

/-! ### Problems -/

/-- Why a file could not be loaded. -/
inductive LoadProblem where
  | notFound (file : String)
  | notJson (file : String)
  | notYaml (file : String)
  | noValue (reason : String)
  | unread (fault : Fault)
  | noFile (fault : Fault)
  | noDatasource (file : String)
  | badSettings (file : String) (rejection : Rejection)
  | noMapping (file : String)
  | noQueries (file : String)
  | badRange (file : String) (rejection : Rejection)
  | notIterable (fault : Fault)
  | queryNoMapping (number : Nat) (file : String)
  | badQuery (number : Nat) (file : String) (rejection : Rejection)
  deriving DecidableEq

/-- The wording of a problem. -/
def LoadProblem.message : LoadProblem → String
  | .notFound file => "File not found: " ++ file
  | .notJson file => "Invalid JSON in " ++ file
  | .notYaml file => "Invalid YAML in " ++ file
  | .noValue reason => reason
  | .unread f | .noFile f => f.message
  | .noDatasource file => "No datasource section found in " ++ file
  | .badSettings file rejection =>
    "Invalid datasource settings in " ++ file ++ ": " ++ rejection.message
  | .noMapping file => "Batch file " ++ file ++ " must contain a mapping"
  | .noQueries file => "No queries found in " ++ file
  | .badRange file rejection => "Invalid time range in " ++ file ++ ": " ++ rejection.message
  | .notIterable f => f.message
  | .queryNoMapping number file =>
    "Query #" ++ toString number ++ " in " ++ file ++ " must be a mapping"
  | .badQuery number file rejection =>
    "Invalid query #" ++ toString number ++ " in " ++ file ++ ": " ++ rejection.message

/-- The families of problems with files. -/
inductive LoadProblem.Category where
  | missing | value | type | path
  | other (category : Fault.Category)
  deriving DecidableEq

/-- The family of a problem. -/
def LoadProblem.category : LoadProblem → LoadProblem.Category
  | .notFound _ => .missing
  | .unread f => if f.category = .value then .value else .other f.category
  | .noFile _ => .path
  | .notIterable _ => .type
  | _ => .value

namespace FileSet

/-! ### Paths -/

/-- The parts of a path that lead somewhere. -/
def partsOf (path : List Char) : List (List Char) :=
  (Text.splitAt '/' path).filter fun part => part ≠ [] ∧ part ≠ ['.']

/-- What a path starts with: one slash or exactly two, or nothing. -/
def rootOf (path : List Char) : List Char :=
  match path with
  | ['/', '/'] => ['/', '/']
  | '/' :: '/' :: c :: _ => if c = '/' then ['/'] else ['/', '/']
  | '/' :: _ => ['/']
  | _ => []

/-- A path without empty parts and parts that stay in place. -/
def plainPath (path : String) : String :=
  let root := rootOf path.toList
  let text := root ++ Text.joinWith ['/'] (partsOf path.toList)
  if text.isEmpty then "." else String.ofList text

/-- What stands at a path. -/
inductive Entry where
  | file (text : String)
  | directory
  | nothing
  | unnameable
  deriving DecidableEq

/-- The bytes that a part of a path may have. -/
def maxPart : Nat := 255

/-- The bytes that a path may have. -/
def maxPath : Nat := 4095

/-- Whether a name in a path is too long. -/
def isLong (limit : Nat) (s : List Char) : Bool := limit < (String.ofList s).utf8ByteSize

/-- Follows the parts of a path from a directory. Of the directories above only their path is
known. -/
def follow (files : FileSet) (here : List (List Char)) : List (List Char) → Entry
  | [] => .directory
  | part :: parts =>
    if isLong maxPart part then .unnameable
    else if part = ['.', '.'] then
      if here.isEmpty then
        if parts.all (· = ['.', '.']) then .directory else .nothing
      else follow files here.dropLast parts
    else
      let there := here ++ [part]
      match files.files.find? fun (name, _) => partsOf name.toList = there with
      | some (_, text) => if parts.isEmpty then .file text else .nothing
      | none =>
        if files.files.any fun (name, _) => there.isPrefixOf (partsOf name.toList) then
          follow files there parts
        else .nothing

/-- What stands at a plain path. -/
def entry (files : FileSet) (path : String) : Entry :=
  if isLong maxPath path.toList then .unnameable
  else
    match rootOf path.toList, partsOf path.toList with
    | [], parts => follow files [] parts
    | _, [] => .directory
    | _, part :: _ => if isLong maxPart part then .unnameable else .nothing

/-- Whether a name ends in `.json` and has something before that. -/
def isJson (file : String) : Bool :=
  let name := ((Text.splitAt '/' file.toList).getLast?).getD []
  ".json".toList.isSuffixOf name && 5 < name.length

/-- A text in which every line ends in the same way. -/
def plainLines : List Char → List Char
  | '\r' :: '\n' :: s => '\n' :: plainLines s
  | '\r' :: s => '\n' :: plainLines s
  | c :: s => c :: plainLines s
  | [] => []

/-! ### Loading -/

/-- The reader for a file. -/
def reader (files : FileSet) (file : String) : Reader :=
  if isJson file then files.json else files.yaml

/-- The problem with a file that is not read. -/
def problemOf (file : String) : Unread → LoadProblem
  | .malformed => if isJson file then .notJson file else .notYaml file
  | .value reason => .noValue reason
  | .fault f => .unread f

/-- The data in a file. -/
def load (files : FileSet) (path : String) : Except LoadProblem Data :=
  let quoted := String.ofList (Text.quoted path.toList)
  match files.entry path with
  | .file text => (files.reader path (plainLines text.toList)).mapError (problemOf path)
  | .directory => .error (.noFile (.isDirectory quoted))
  | .nothing => .error (.notFound path)
  | .unnameable => .error (.noFile (.nameTooLong quoted))

end FileSet
end MetricFrames
