import MetricFrames.Data.Text

/-!
# Decoding

Decoding turns dynamic data into typed values. It does not stop at the first problem: the problems
of all parts are collected in the order of the parts, each with the path to the value that is to
blame. A field has a name on the wire and a plain name, and may be given under either; if it is
given under both, the name on the wire counts.
-/

namespace MetricFrames

/-- What is wrong with a value. -/
inductive Problem.Kind where
  | missing | text | integer | integerText | integerFraction | integerSize | finite
  | number | numberText | flag | flagText | timestamp | timestampText | timestampRange
  | list | dictionary | record | json
  deriving DecidableEq

/-- The tag of a kind of problem in a report. -/
def Problem.Kind.tag : Problem.Kind → String
  | .missing => "missing"
  | .text => "string_type"
  | .integer => "int_type"
  | .integerText => "int_parsing"
  | .integerFraction => "int_from_float"
  | .integerSize => "int_parsing_size"
  | .finite => "finite_number"
  | .number => "float_type"
  | .numberText => "float_parsing"
  | .flag => "bool_type"
  | .flagText => "bool_parsing"
  | .timestamp => "datetime_type"
  | .timestampText => "datetime_from_date_parsing"
  | .timestampRange => "datetime_parsing"
  | .list => "list_type"
  | .dictionary => "dict_type"
  | .record => "model_type"
  | .json => "json_invalid"

/-- A problem and the path to the value that has it. -/
structure Problem where
  path : List String
  kind : Problem.Kind
  deriving DecidableEq

/-- A value, or all the problems that keep it from being one. -/
def Checked (α : Type) := Except (List Problem) α

namespace Checked

variable {α β : Type}

/-- A value without problems. -/
def ok (a : α) : Checked α := Except.ok a

/-- A single problem with the value itself. -/
def bad (kind : Problem.Kind) : Checked α := Except.error [⟨[], kind⟩]

/-- Changes the value. -/
def map (f : α → β) : Checked α → Checked β
  | .ok a => .ok (f a)
  | .error ps => .error ps

/-- Applies a checked function; the problems of both sides are kept. -/
def seq (f : Checked (α → β)) (a : Checked α) : Checked β :=
  match f, a with
  | .ok f, .ok a => .ok (f a)
  | .ok _, .error qs => .error qs
  | .error ps, .ok _ => .error ps
  | .error ps, .error qs => .error (ps ++ qs)

instance : Functor Checked := ⟨fun f a => a.map f, fun b a => a.map fun _ => b⟩

instance : Pure Checked := ⟨ok⟩

instance : Seq Checked := ⟨fun f a => f.seq (a ())⟩

/-- Puts the problems below a name. -/
def below (name : String) : Checked α → Checked α
  | .ok a => .ok a
  | .error ps => .error (ps.map fun p => { p with path := name :: p.path })

/-- All values of a list, or all their problems. -/
def all : List (Checked α) → Checked (List α)
  | [] => ok []
  | c :: cs => List.cons <$> c <*> all cs

end Checked

/-- A way to decode. -/
abbrev Decoder (α : Type) := Data → Checked α

namespace Decoder

variable {α : Type}

/-- A list, item by item. -/
def list (item : Decoder α) : Decoder (List α)
  | .list items => Checked.all (items.mapIdx fun i d => (item d).below (toString i))
  | _ => .bad .list

/-- How a place names a key. -/
def keyName : Data → String
  | .bool b => if b then "1" else "0"
  | key => String.ofList key.cited

/-- A dictionary with textual keys, entry by entry. -/
def dictionary (value : Decoder α) : Decoder (Members α)
  | .object ms =>
    Checked.all (ms.map fun (name, d) => (Prod.mk name) <$> (value d).below name)
  | .mapping ms =>
    Checked.all (ms.map fun
      | (.text name, d) => (Prod.mk name) <$> (value d).below name
      | (key, d) =>
        (fun (_ : Unit) v => (keyName key, v)) <$>
          ((Checked.bad .text).below "[key]").below (keyName key) <*>
          (value d).below (keyName key))
  | _ => .bad .dictionary

/-- Any value as it is. -/
def any : Decoder Data := Checked.ok

/-- Null or a value. -/
def nullable (value : Decoder α) : Decoder (Option α)
  | .null => .ok none
  | d => some <$> value d

/-- An empty list for null. -/
def nullAsEmpty {β : Type} (value : Decoder (List β)) : Decoder (List β)
  | .null => .ok []
  | d => value d

/-- A record, decoded from its members. -/
def record (fields : Members Data → Checked α) : Decoder α := fun d =>
  match d.members? with
  | some ms => fields ms
  | none => .bad .record

end Decoder

/-- The names of a field: on the wire and plain. -/
structure FieldName where
  wire : String
  plain : String

namespace FieldName

variable {α : Type}

/-- The value of a field and the name under which it is given. -/
def find? (f : FieldName) (ms : Members Data) : Option (String × Data) :=
  match ms.get? f.wire with
  | some d => some (f.wire, d)
  | none => (ms.get? f.plain).map fun d => (f.plain, d)

/-- A field that has to be given. -/
def required (f : FieldName) (value : Decoder α) (ms : Members Data) : Checked α :=
  match f.find? ms with
  | some (name, d) => (value d).below name
  | none => (Checked.bad .missing).below f.wire

/-- A field that may be left out. -/
def optional (f : FieldName) (fallback : α) (value : Decoder α) (ms : Members Data) : Checked α :=
  match f.find? ms with
  | some (name, d) => (value d).below name
  | none => .ok fallback

end FieldName

/-- A value that cannot be decoded as a model: all its problems. -/
structure Rejection where
  model : String
  problems : List Problem
  deriving DecidableEq

/-- A step of a path: between backquotes if there is a point in it. -/
def Problem.step (name : String) : String :=
  let mark := String.ofList [Char.ofNat 96]
  if name.contains '.' then mark ++ name ++ mark else name

/-- A problem as a report lists it. -/
def Problem.message (p : Problem) : String :=
  let tag := "[" ++ p.kind.tag ++ "]"
  if p.path.isEmpty then tag
  else String.intercalate "." (p.path.map Problem.step) ++ " " ++ tag

/-- The report of a rejection. -/
def Rejection.message (r : Rejection) : String :=
  toString r.problems.length ++ " validation errors for " ++ r.model ++ ": " ++
    String.intercalate "; " (r.problems.map Problem.message)

/-- A checked value as the value of a model. -/
def Checked.report {α : Type} (model : String) : Checked α → Except Rejection α
  | .ok a => .ok a
  | .error ps => .error ⟨model, ps⟩

end MetricFrames
