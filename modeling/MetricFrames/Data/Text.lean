import MetricFrames.Binary64.Text
import MetricFrames.Data.Basic
import MetricFrames.Text.Quoted
import MetricFrames.Time.Text

/-!
# Data as text

A value inside a message or a label is written in one of two ways: by itself, where a text stands
as it is, or cited, where texts are quoted. Inside a list or object everything is cited.
-/

namespace MetricFrames

/-- Pieces between brackets, separated by commas. -/
def bracketed (left right : Char) (pieces : List (List Char)) : List Char :=
  left :: (pieces.intersperse [',', ' ']).flatten ++ [right]

/-- An integer. -/
def integerText (i : Int) : List Char := (toString i).toList

/-- A list of texts as a message cites it. -/
def citedList (items : List String) : List Char :=
  bracketed '[' ']' (items.map fun s => Text.quoted s.toList)

/-- A timestamp as a message cites it: its parts, seconds and microseconds only if needed. -/
def Timestamp.citedText (t : Timestamp) : List Char :=
  let clock := t.secondOfDay
  let parts : List Nat := [t.date.year, t.date.month, t.date.day, clock / 3600, clock / 60 % 60] ++
    (if t.micros ≠ 0 then [clock % 60, t.micros]
      else if clock % 60 ≠ 0 then [clock % 60] else [])
  let zone : List (List Char) :=
    match t.offset with
    | none => []
    | some offset =>
      if offset = 0 then ["tzinfo=datetime.timezone.utc".toList]
      else
        let days := if offset < 0 then "days=-1, ".toList else []
        ["tzinfo=datetime.timezone(datetime.timedelta(".toList ++ days ++ "seconds=".toList ++
          integerText (offset / 1000000 % 86400) ++ "))".toList]
  "datetime.datetime".toList ++ bracketed '(' ')' (parts.map (fun n : Nat => integerText n) ++ zone)

namespace Data

mutual

/-- A value as a message cites it. -/
def cited : Data → List Char
  | .null => "None".toList
  | .bool b => (if b then "True" else "False").toList
  | .int i => integerText i
  | .float x => x.text
  | .text s => Text.quoted s.toList
  | .time t => t.citedText
  | .date d =>
    "datetime.date".toList ++
      bracketed '(' ')' [integerText d.year, integerText d.month, integerText d.day]
  | .list items => bracketed '[' ']' (citedItems items)
  | .object members => bracketed '\x7b' '\x7d' (citedMembers members)
  | .mapping members => bracketed '\x7b' '\x7d' (citedPairs members)

/-- The items of a list. -/
def citedItems : List Data → List (List Char)
  | [] => []
  | d :: ds => cited d :: citedItems ds

/-- The members of an object. -/
def citedMembers : List (String × Data) → List (List Char)
  | [] => []
  | (name, d) :: ms => (Text.quoted name.toList ++ ':' :: ' ' :: cited d) :: citedMembers ms

/-- The entries of a mapping. -/
def citedPairs : List (Data × Data) → List (List Char)
  | [] => []
  | (key, d) :: ms => (cited key ++ ':' :: ' ' :: cited d) :: citedPairs ms

end

/-- A value by itself. -/
def shown : Data → List Char
  | .text s => s.toList
  | .time t => t.tableText
  | .date d => Timestamp.dateText 4 '-' d
  | d => cited d

/-- A value by itself, as a string. -/
def display (d : Data) : String := String.ofList d.shown

/-- Whether two values are the same key: flags and numbers by what they count, timestamps by their
instant, everything else as it is written. -/
def sameKey (d e : Data) : Bool :=
  match d.units?, e.units? with
  | some m, some n => m == n
  | none, none =>
    match d, e with
    | .time s, .time t => s.same t
    | _, _ => d.cited == e.cited
  | _, _ => false

end Data
end MetricFrames
