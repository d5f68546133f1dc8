import MetricFrames.Binary64.Arithmetic
import MetricFrames.Decode.Basic
import MetricFrames.Text.Search
import MetricFrames.Time.Reading

/-!
# Decoding single values

Texts are taken as they are. Numbers, flags and timestamps are also taken from other types where
that loses nothing: an integer from a number without fraction or from its digits, a flag from one
and zero or from the usual words, a timestamp from a date or a count of seconds.
-/

namespace MetricFrames.Decoder

-- Powers of naturals are those of the core library, whatever else is in scope.
attribute [local instance (high)] instPowNat

/-- A text. -/
def text : Decoder String
  | .text s => .ok s
  | _ => .bad .text

/-! ### Numbers in texts -/

/-- Digits without their underscores, which may stand between other characters one at a time;
without underscores, or with others, nothing. -/
def withoutUnderscores? (s : List Char) : Option (List Char) :=
  if s.head? = some '_' ∨ s.getLast? = some '_' ∨ Text.contains ['_', '_'] s ∨ !s.contains '_' then
    none
  else some (s.filter (· != '_'))

/-- The text before a point that only zeros follow. -/
def dropZeroPlaces (s : List Char) : List Char :=
  match s.span (· != '.') with
  | (whole, _ :: place :: places) =>
    if (place :: places).all (· == '0') then whole else s
  | _ => s

/-- Drops zeros at the start, with underscores among them; the last zero stays where no other digit
follows. What does not start with a digit is no number. -/
def dropLeadingZeros? : List Char → Option (List Char)
  | [] => none
  | c :: s =>
    if c = '0' then afterZero c s else if c.isDigit then some (c :: s) else none
where
  /-- The same after some zeros and underscores, the last of which is given. -/
  afterZero (last : Char) : List Char → Option (List Char)
    | [] => some [last]
    | c :: s =>
      if c = '0' ∨ c = '_' then afterZero c s
      else if c.isDigit then some (c :: s)
      else if c = '.' then some (last :: c :: s)
      else none

/-- The longest numeral, with its sign, that is read as an integer. -/
def maxIntegerLength : Nat := 4300

/-- An integer as JSON writes it: no blanks, no leading zeros, at most a minus before it. -/
def canonicalInteger (s : List Char) : Checked Int :=
  let (sign, body) := s.span (· == '-')
  let digits := body.takeWhile Char.isDigit
  if 1 < sign.length ∨ digits.isEmpty then .bad .integerText
  else if digits.head? = some '0' then
    if body = ['0'] then .ok 0 else .bad .integerText
  else if maxIntegerLength < sign.length + digits.length then .bad .integerSize
  else if digits.length < body.length then .bad .integerText
  else
    let n : Int := Binary64.digitsFrom 0 digits
    .ok (if sign.isEmpty then n else -n)

/-- The canonical form of an integer that has blanks around it, a plus, leading zeros, underscores
or a point with zeros. -/
def tidyInteger? (s : List Char) : Option (List Char) :=
  let (negative, body) := Binary64.readSign (Text.trimBy Text.isSpace s)
  (dropLeadingZeros? body).map fun digits =>
    let whole := dropZeroPlaces digits
    let plain := (withoutUnderscores? whole).getD whole
    if negative then '-' :: plain else plain

/-- An integer in a text. -/
def integerOfText (s : List Char) : Checked Int :=
  match canonicalInteger s with
  | .ok i => .ok i
  | .error ps =>
    if ps = [⟨[], .integerSize⟩] then .bad .integerSize
    else
      match tidyInteger? s with
      | some t => canonicalInteger t
      | none => .bad .integerText

/-- A number in a text: with blanks around it, or with underscores inside, and the words for
special values. -/
def numberOfText? (s : List Char) : Option Binary64 :=
  match Binary64.readPlain? (Text.trimBy Text.isSpace s) with
  | some x => some x
  | none => (withoutUnderscores? s).bind Binary64.readPlain?

/-! ### Numbers, flags and timestamps -/

/-- Where data come from: they are read from a JSON text, or handed over as values. In a JSON text
an integer that 64 bits do not hold is a number, maybe an infinite one, but no timestamp. -/
inductive Source where
  | json | values
  deriving DecidableEq

/-- Whether 64 bits hold an integer. -/
def isLong (i : Int) : Bool := -(2 ^ (63 : Nat)) ≤ i && i < 2 ^ (63 : Nat)

/-- An integer. -/
def integer : Decoder Int
  | .int i => .ok i
  | .bool b => .ok (if b then 1 else 0)
  | .float x =>
    match x.truncate? with
    | none => .bad .finite
    | some i =>
      if !x.isWhole then .bad .integerFraction
      else if i.natAbs < 2 ^ (63 : Nat) then .ok i
      else .bad .integerSize
  | .text s => integerOfText s.toList
  | _ => .bad .integer

/-- A number. -/
def number (source : Source) : Decoder Binary64
  | .float x => .ok x
  | .bool b => .ok (.ofInt (if b then 1 else 0))
  | .int i =>
    match source, Binary64.ofInt i with
    | .values, .infinite _ => .bad .number
    | _, x => .ok x
  | .text s =>
    match numberOfText? s.toList with
    | some x => .ok x
    | none => .bad .numberText
  | _ => .bad .number

/-- The words for true. -/
def trueWords : List String := ["true", "yes", "on", "t", "y", "1"]

/-- The words for false. -/
def falseWords : List String := ["false", "no", "off", "f", "n", "0"]

/-- A flag from an integer. -/
def flagOfInteger (i : Int) : Checked Bool :=
  if i = 1 then .ok true else if i = 0 then .ok false
  else if isLong i then .bad .flagText else .bad .flag

/-- A flag. -/
def flag : Decoder Bool
  | .bool b => .ok b
  | .int i => flagOfInteger i
  | .float x =>
    match x.truncate? with
    | some i => if x.isWhole && i != -(2 ^ (63 : Nat)) then flagOfInteger i else .bad .flag
    | none => .bad .flag
  | .text s =>
    if trueWords.contains s.toLower then .ok true
    else if falseWords.contains s.toLower then .ok false
    else .bad .flagText
  | _ => .bad .flag

/-- A timestamp from what was read; a text that means none has a problem of its own. -/
def found (unread : Problem.Kind) : Timestamp.Reading → Checked Timestamp
  | .ok t => .ok t
  | .error .malformed => .bad unread
  | .error .outside => .bad .timestampRange

/-- A timestamp from an integer that 64 bits do not hold. -/
def timestampOfWide (source : Source) (i : Int) : Checked Timestamp :=
  match source, Binary64.ofInt i with
  | .values, .finite .. => .bad .timestampRange
  | _, _ => .bad .timestamp

/-- A timestamp. -/
def timestamp (source : Source) : Decoder Timestamp
  | .time t => .ok t
  | .date d => found .timestampRange (Timestamp.atTime d 0 0 none)
  | .text s => found .timestampText (Timestamp.read s.toList)
  | .int i =>
    if isLong i then found .timestampRange (Timestamp.ofCount i) else timestampOfWide source i
  | .float x => found .timestampRange (Timestamp.ofFractionalCount x)
  | _ => .bad .timestamp

/-- Cuts every fraction of seven or more digits to six. -/
def cutFractions : List Char → List Char
  | [] => []
  | c :: s =>
    if c = '.' ∧ 6 < (s.takeWhile Text.isDigit).length then
      c :: s.take 6 ++ cutFractions (s.dropWhile Text.isDigit)
    else c :: cutFractions s
termination_by s => s.length
decreasing_by
  · have := (List.dropWhile_suffix (l := s) Text.isDigit).length_le
    simp only [List.length_cons]; omega
  · simp

/-- A timestamp whose text may have a fraction finer than microseconds. -/
def fineTimestamp (source : Source) : Decoder Timestamp
  | .text s => found .timestampText (Timestamp.read (cutFractions s.toList))
  | d => timestamp source d

end MetricFrames.Decoder
