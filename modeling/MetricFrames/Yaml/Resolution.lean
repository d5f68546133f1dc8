import MetricFrames.Binary64.Reading
import MetricFrames.Data.Text
import MetricFrames.Yaml.Reading

/-!
# What YAML nodes mean

A plain scalar may mean null, a flag, a number, a date or a timestamp; any other scalar is a text.
The rules are those of version 1.1 of the format: `yes` and `off` are flags, `010` and `1:30` are
numbers in base eight and sixty, and `1e5` is a text. A mapping with texts for all its keys is an
object; of two entries with one key the later value counts. If several scalars are at fault, the one
that is nested least is reported.
-/

attribute [local instance (high)] instPowNat

namespace MetricFrames.Yaml

/-- Why a text does not mean anything: it is not YAML, or one of its scalars has the form of a date,
of a timestamp or of a number but is none. -/
inductive Problem where
  | malformed
  | calendar (reason : String)
  | number (fault : Fault)
  deriving DecidableEq

/-! ### Numbers -/

/-- Whether a text has at least one character and all of them are of a class. -/
def allOf (p : Char → Bool) (s : List Char) : Bool := !s.isEmpty && s.all p

/-- A digit or an underscore. -/
def isDigitOrLine (c : Char) : Bool := c.isDigit || c == '_'

/-- The number that digits of a base write; underscores do not count. -/
def digitsIn (base : Nat) (s : List Char) : Nat :=
  s.foldl (fun n c => ((Text.hexValue? c).map (n * base + ·)).getD n) 0

/-- One of sixty digits: up to two decimal digits, the first of two at most five. -/
def isSixty (s : List Char) : Bool :=
  match s with
  | [c] => c.isDigit
  | [c, d] => '0' ≤ c && c ≤ '5' && d.isDigit
  | _ => false

/-- A text without underscores. -/
def withoutLines (s : List Char) : List Char := s.filter (· != '_')

/-- The number that digits after a mark for their base write; there has to be one. -/
def markedDigits (base : Nat) (s : List Char) : Except Fault Nat :=
  if (withoutLines s).isEmpty then .error (.emptyNumeral base) else .ok (digitsIn base s)

/-- The number that decimal digits write; there may not be too many. -/
def decimalDigits (s : List Char) : Except Fault Nat :=
  let count := (withoutLines s).length
  if Fault.maxDigits < count then .error (.tooManyDigits count) else .ok (digitsIn 10 s)

/-- An unsigned integer; what has the form of one may still be at fault. -/
def natural? (s : List Char) : Option (Except Fault Nat) :=
  match s with
  | ['0'] => some (.ok 0)
  | '0' :: 'b' :: ds =>
    if allOf (fun c => c == '0' || c == '1' || c == '_') ds then some (markedDigits 2 ds) else none
  | '0' :: 'x' :: ds =>
    if allOf (fun c => (Text.hexValue? c).isSome || c == '_') ds then some (markedDigits 16 ds)
    else none
  | '0' :: ds =>
    if allOf (fun c => ('0' ≤ c && c ≤ '7') || c == '_') ds then some (.ok (digitsIn 8 ds))
    else none
  | s =>
    match Text.splitAt ':' s with
    | first :: parts =>
      if allOf isDigitOrLine first && first.head? != some '_' && parts.all isSixty then
        some ((decimalDigits first).map fun n =>
          parts.foldl (fun n part => n * 60 + digitsIn 10 part) n)
      else none
    | [] => none

/-- An integer. -/
def integer? (s : List Char) : Option (Except Fault Int) :=
  let (negative, body) := Binary64.readSign s
  (natural? body).map fun n => n.map fun n => if negative then -(n : Int) else n

/-- The places and the exponent of a number, after its point: an exponent needs a sign. -/
def isFraction (s : List Char) : Bool :=
  match s.dropWhile isDigitOrLine with
  | [] => true
  | e :: sign :: ds =>
    (e == 'e' || e == 'E') && (sign == '+' || sign == '-') && allOf Char.isDigit ds
  | _ => false

/-- A number in base sixty with a fraction. The weights of its parts are integers and have to be in
the range of numbers with a fraction. -/
def sixtyFraction (whole : List (List Char)) (places : List Char) : Except Fault Binary64 := do
  let last := (Binary64.readPlain? (withoutLines (whole.getLastD [] ++ '.' :: places))).getD .nan
  let parts := last :: whole.dropLast.reverse.map fun part => Binary64.ofInt (digitsIn 10 part)
  let weights ← (List.range whole.length).mapM fun n => Binary64.ofInteger (60 ^ n : Nat)
  return (List.zipWith Binary64.mul parts weights).foldl Binary64.add (.zero false)

/-- An unsigned number with a point; it starts with a digit, or without a sign with the point. What
has the form of one may still be at fault. -/
def magnitude? (signed : Bool) (s : List Char) : Option (Except Fault Binary64) :=
  match s.span (· != '.') with
  | (_, []) => none
  | (whole, _ :: places) =>
    if whole.isEmpty then
      if !signed && (places.head?.any Char.isDigit) && isFraction places then
        (Binary64.readPlain? (withoutLines s)).map .ok
      else none
    else
      match Text.splitAt ':' whole with
      | [digits] =>
        if allOf isDigitOrLine digits && digits.head? != some '_' && isFraction places then
          (Binary64.readPlain? (withoutLines s)).map .ok
        else none
      | first :: parts =>
        if allOf isDigitOrLine first && first.head? != some '_' && parts.all isSixty &&
            places.all isDigitOrLine then
          some (sixtyFraction (first :: parts) places)
        else none
      | [] => none

/-- A number with a point, an infinity, or the not-a-number value. -/
def number? (s : List Char) : Option (Except Fault Binary64) :=
  let (negative, body) := Binary64.readSign s
  if [".inf", ".Inf", ".INF"].contains (String.ofList body) then some (.ok (.infinite negative))
  else if [".nan", ".NaN", ".NAN"].contains (String.ofList s) then some (.ok .nan)
  else
    (magnitude? (body.length < s.length) body).map fun x =>
      x.map fun x => if negative then x.neg else x

/-! ### Dates and timestamps -/

/-- Reads one or two digits. -/
def shortNumber? : List Char → Option (Nat × List Char)
  | c :: d :: s =>
    if c.isDigit then
      if d.isDigit then some ((c.toNat - 48) * 10 + (d.toNat - 48), s)
      else some (c.toNat - 48, d :: s)
    else none
  | [c] => if c.isDigit then some (c.toNat - 48, []) else none
  | [] => none

/-- Reads a number of exactly `width` digits. -/
def fixedNumber? (width : Nat) (s : List Char) : Option (Nat × List Char) :=
  let ds := s.take width
  if ds.length = width ∧ ds.all Char.isDigit then
    some (Binary64.digitsFrom 0 ds, s.drop width)
  else none

/-- Reads a given character. -/
def mark? (c : Char) (s : List Char) : Option (List Char) := Text.after? [c] s

/-- The parts of a timestamp as it is written, the offset in seconds. -/
structure Written where
  date : Date
  hour : Nat
  minute : Nat
  second : Nat
  micros : Nat
  offset : Option Int

/-- Reads an offset up to the end: none, universal time, or hours and perhaps minutes. -/
def offset? (s : List Char) : Option (Option Int) :=
  match s.dropWhile fun c => c == ' ' || c == '\t' with
  | [] => if s.isEmpty then some none else none
  | ['Z'] => some (some 0)
  | sign :: t =>
    if sign = '+' ∨ sign = '-' then do
      let (hours, rest) ← shortNumber? t
      let minutes ←
        match rest with
        | [] => some 0
        | ':' :: rest =>
          match fixedNumber? 2 rest with
          | some (minutes, []) => some minutes
          | _ => none
        | _ => none
      let seconds : Int := (hours * 3600 + minutes * 60 : Nat)
      some (some (if sign = '-' then -seconds else seconds))
    else none

/-- Reads the blanks or the letter between a date and a time of day. -/
def afterDate? : List Char → Option (List Char)
  | c :: s =>
    if c = 'T' ∨ c = 't' then some s
    else if c = ' ' ∨ c = '\t' then some (s.dropWhile fun c => c == ' ' || c == '\t')
    else none
  | [] => none

/-- Reads an optional fraction of a second, cut to microseconds. -/
def fraction : List Char → Nat × List Char
  | '.' :: s =>
    let (ds, rest) := Binary64.spanDigits s
    (Binary64.digitsFrom 0 ((ds ++ List.replicate 6 '0').take 6), rest)
  | s => (0, s)

/-- A date with two digits for the month and for the day. -/
def writtenDate? (s : List Char) : Option Date := do
  let (year, s) ← fixedNumber? 4 s
  let (month, s) ← (mark? '-' s).bind (fixedNumber? 2)
  let (day, s) ← (mark? '-' s).bind (fixedNumber? 2)
  if s.isEmpty then some ⟨year, month, day⟩ else none

/-- A date with a time of day. -/
def written? (s : List Char) : Option Written := do
  let (year, s) ← fixedNumber? 4 s
  let (month, s) ← (mark? '-' s).bind shortNumber?
  let (day, s) ← (mark? '-' s).bind shortNumber?
  let (hour, s) ← (afterDate? s).bind shortNumber?
  let (minute, s) ← (mark? ':' s).bind (fixedNumber? 2)
  let (second, s) ← (mark? ':' s).bind (fixedNumber? 2)
  let (micros, s) := fraction s
  let offset ← offset? s
  some ⟨⟨year, month, day⟩, hour, minute, second, micros, offset⟩

/-- What keeps a date from being one of the calendar. -/
def dateProblem? (d : Date) : Option String :=
  if d.year = 0 then some "year 0 is out of range"
  else if d.month = 0 ∨ 12 < d.month then some "month must be in 1..12"
  else if !Calendar.isValid d then some "day is out of range for month"
  else none

/-- What keeps a time of day from being one. -/
def clockProblem? (w : Written) : Option String :=
  if 23 < w.hour then some "hour must be in 0..23"
  else if 59 < w.minute then some "minute must be in 0..59"
  else if 59 < w.second then some "second must be in 0..59"
  else none

/-- What keeps an offset from being one: it is less than a day. -/
def offsetProblem? (offset : Int) : Option String :=
  if offset.natAbs < 86400 then none
  else
    let days := "days=" ++ toString (offset / 86400)
    let seconds := if offset % 86400 = 0 then "" else ", seconds=" ++ toString (offset % 86400)
    some ("offset must be a timedelta strictly between -timedelta(hours=24) and " ++
      "timedelta(hours=24), not datetime.timedelta(" ++ days ++ seconds ++ ").")

/-- The timestamp as it is written, or what keeps it from being one. -/
def timestampOf (w : Written) : Except Problem Data :=
  match (w.offset.bind offsetProblem?) <|> dateProblem? w.date <|> clockProblem? w with
  | some reason => .error (.calendar reason)
  | none =>
    let second := w.hour * 3600 + w.minute * 60 + w.second
    match Timestamp.ofDate? w.date second w.micros (w.offset.map (· * 1000000)) with
    | some t => .ok (.time t)
    | none => .error .malformed

/-! ### Scalars -/

/-- The words for true. -/
def trueWords : List String := ["yes", "Yes", "YES", "true", "True", "TRUE", "on", "On", "ON"]

/-- The words for false. -/
def falseWords : List String :=
  ["no", "No", "NO", "false", "False", "FALSE", "off", "Off", "OFF"]

/-- The words for null; so does a scalar without text. -/
def nullWords : List String := ["", "~", "null", "Null", "NULL"]

/-- The plain scalars that only mean something as keys. -/
def keyWords : List String := ["=", "<<"]

/-- A plain scalar that is no word. -/
def plainData (s : List Char) : Except Problem Data :=
  match integer? s, number? s, writtenDate? s, written? s with
  | some (.ok i), _, _, _ => .ok (.int i)
  | some (.error f), _, _, _ => .error (.number f)
  | none, some (.ok x), _, _ => .ok (.float x)
  | none, some (.error f), _, _ => .error (.number f)
  | none, none, some d, _ =>
    match dateProblem? d with
    | some reason => .error (.calendar reason)
    | none => .ok (.date d)
  | none, none, none, some w => timestampOf w
  | none, none, none, none => .ok (.text (String.ofList s))

/-- What a scalar means. -/
def Scalar.toData (s : Scalar) : Except Problem Data :=
  let text := String.ofList s.text
  if !s.plain then .ok (.text text)
  else if nullWords.contains text then .ok .null
  else if trueWords.contains text then .ok (.bool true)
  else if falseWords.contains text then .ok (.bool false)
  else if keyWords.contains text then .error .malformed
  else plainData s.text

/-- What a key means. -/
def Scalar.toKey (s : Scalar) : Except Problem Data :=
  if s.plain ∧ s.text = ['='] then .ok (.text "=") else s.toData

/-- Whether a key asks for the entries of its value instead of an entry of its own. -/
def Scalar.isMerge (s : Scalar) : Bool := s.plain && s.text == ['<', '<']

/-! ### Collections -/

/-- An entry of a mapping. -/
abbrev Entry := Data × Data

/-- Adds an entry, in the place of an earlier one with its key. -/
def putEntry (entries : List Entry) (e : Entry) : List Entry :=
  if entries.any fun f => f.1.sameKey e.1 then
    entries.map fun f => if f.1.sameKey e.1 then (f.1, e.2) else f
  else entries ++ [e]

/-- The members of entries whose keys are texts. -/
def textEntries? (entries : List Entry) : Option (Members Data) :=
  entries.mapM fun
    | (.text name, d) => some (name, d)
    | _ => none

/-- The mapping of some entries. -/
def mappingOf (entries : List Entry) : Data :=
  let entries := entries.foldl putEntry []
  match textEntries? entries with
  | some members => .object members
  | none => .mapping entries

/-- The entries of a mapping. -/
def entriesOf : Data → Except Problem (List Entry)
  | .object members => .ok (members.map fun (name, d) => (.text name, d))
  | .mapping entries => .ok entries
  | _ => .error .malformed

/-- The entries that a merge brings: those of a mapping, or of the mappings of a list, of which an
earlier one counts more. -/
def mergedEntries : Data → Except Problem (List Entry)
  | .list items => (items.reverse.mapM entriesOf).map List.flatten
  | d => entriesOf d

mutual

/-- What a node means. -/
def Node.toData : Node → Except Problem Data
  | .scalar s => s.toData
  | .sequence items => (itemsData items).map Data.list
  | .mapping entries => (entriesData entries).map fun (merged, own) => mappingOf (merged ++ own)

/-- What the items of a sequence mean. -/
def itemsData : List Node → Except Problem (List Data)
  | [] => .ok []
  | n :: ns => do
    let d ← n.toData
    let ds ← itemsData ns
    return d :: ds

/-- The entries of a mapping: those that merges bring, and its own. -/
def entriesData : List (Scalar × Node) → Except Problem (List Entry × List Entry)
  | [] => .ok ([], [])
  | (s, n) :: es => do
    if s.isMerge then
      let new ← mergedEntries (← n.toData)
      let (merged, own) ← entriesData es
      return (new ++ merged, own)
    else
      let key ← s.toKey
      let value ← n.toData
      let (merged, own) ← entriesData es
      return (merged, (key, value) :: own)

end

/-! ### Problems -/

/-- The problem of a scalar. -/
def problemOf (e : Except Problem Data) : List Problem :=
  match e with
  | .ok _ => []
  | .error p => [p]

mutual

/-- The problems of the scalars at a depth below a node, in order. -/
def Node.problemsAt : (depth : Nat) → Node → List Problem
  | 0, .scalar s => problemOf s.toData
  | depth + 1, .sequence items => itemProblemsAt depth items
  | depth + 1, .mapping entries => entryProblemsAt depth entries
  | _, _ => []

/-- The problems at a depth below the items of a sequence. -/
def itemProblemsAt (depth : Nat) : List Node → List Problem
  | [] => []
  | n :: ns => n.problemsAt depth ++ itemProblemsAt depth ns

/-- The problems at a depth below the entries of a mapping; a key is as deep as its value. -/
def entryProblemsAt (depth : Nat) : List (Scalar × Node) → List Problem
  | [] => []
  | (s, n) :: es =>
    (if depth = 0 ∧ !s.isMerge then problemOf s.toKey else []) ++ n.problemsAt depth ++
      entryProblemsAt depth es

/-- How deep the scalars below a node are nested at most. -/
def Node.depth : Node → Nat
  | .scalar _ => 0
  | .sequence items => itemsDepth items + 1
  | .mapping entries => entriesDepth entries + 1

/-- The greatest depth below the items of a sequence. -/
def itemsDepth : List Node → Nat
  | [] => 0
  | n :: ns => max n.depth (itemsDepth ns)

/-- The greatest depth below the entries of a mapping. -/
def entriesDepth : List (Scalar × Node) → Nat
  | [] => 0
  | (_, n) :: es => max n.depth (entriesDepth es)

end

/-- The first problem of a scalar that is nested least. -/
def Node.firstProblem? (n : Node) : Option Problem :=
  (List.range (n.depth + 1)).findSome? fun depth => (n.problemsAt depth).head?

/-- What a text means. -/
def read (s : List Char) : Except Problem Data :=
  match readNode? s with
  | none => .error .malformed
  | some node =>
    match node.toData, node.firstProblem? with
    | .error p, none => .error p
    | .error _, some p => .error p
    | .ok d, _ => .ok d

end MetricFrames.Yaml
