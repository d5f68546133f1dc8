import MetricFrames.Binary64.Reading
import MetricFrames.Time.Timestamp

/-!
# Reading timestamps

A timestamp in data is a date, or a date and a time of day with an optional offset, or a number of
seconds since the Unix epoch. A number beyond twenty thousand million is taken as milliseconds. A
fraction in a time of day is cut to microseconds, a fraction in a number is rounded to them. A date
may name the year zero, which reads as a date but lies outside the calendar.
-/

namespace MetricFrames.Timestamp

/-- Reads a number of exactly `width` ASCII digits. -/
def readWidth? : (width : Nat) → (acc : Nat) → List Char → Option (Nat × List Char)
  | 0, acc, s => some (acc, s)
  | _ + 1, _, [] => none
  | width + 1, acc, c :: s =>
    if c.isDigit then readWidth? width (acc * 10 + (c.toNat - 48)) s else none

/-- Reads one given character. -/
def readChar? (c : Char) : List Char → Option (List Char)
  | [] => none
  | d :: s => if c = d then some s else none

/-- Why there is no timestamp: the text or number means none, or it lies outside the calendar. -/
inductive Unreadable where
  | malformed | outside
  deriving DecidableEq

/-- A timestamp, or why there is none. -/
abbrev Reading := Except Unreadable Timestamp

/-- A timestamp of the calendar, or none of it. -/
def inCalendar : Option Timestamp → Reading
  | some t => .ok t
  | none => .error .outside

/-- Reads `YYYY-MM-DD` of a date that exists, if the year zero is taken for a leap year. -/
def readDate? (s : List Char) : Option (Date × List Char) := do
  let (year, s) ← readWidth? 4 0 s
  let (month, s) ← (readChar? '-' s).bind (readWidth? 2 0)
  let (day, s) ← (readChar? '-' s).bind (readWidth? 2 0)
  let date : Date := ⟨year, month, day⟩
  if Calendar.hasDay date then some (date, s) else none

/-- The first six digits of a fraction as microseconds. -/
def microsOf (ds : List Char) : Nat :=
  Binary64.digitsFrom 0 ((ds ++ List.replicate 6 '0').take 6)

/-- The marks that may stand between seconds and their fraction. -/
def isFractionMark (c : Char) : Bool := c == '.' || c == ','

/-- Reads an optional mark with at least one digit. -/
def readFraction? : List Char → Option (Nat × List Char)
  | [] => some (0, [])
  | c :: s =>
    if isFractionMark c then
      let (ds, rest) := Binary64.spanDigits s
      if ds.isEmpty then none else some (microsOf ds, rest)
    else some (0, c :: s)

/-- Reads `HH:MM`, optionally with seconds and a fraction: the second of the day and the
microseconds. -/
def readClock? (s : List Char) : Option (Nat × Nat × List Char) := do
  let (hour, s) ← readWidth? 2 0 s
  let (minute, s) ← (readChar? ':' s).bind (readWidth? 2 0)
  if 23 < hour ∨ 59 < minute then none
  else
    match readChar? ':' s with
    | none => some (hour * 3600 + minute * 60, 0, s)
    | some s =>
      let (second, s) ← readWidth? 2 0 s
      let (micros, s) ← readFraction? s
      if 59 < second then none else some (hour * 3600 + minute * 60 + second, micros, s)

/-- The minus of typeset texts. -/
def minusSign : Char := Char.ofNat 0x2212

/-- Reads an offset up to the end of the text; no text is no offset. -/
def readOffset? : List Char → Option (Option Int)
  | [] => some none
  | ['Z'] => some (some 0)
  | ['z'] => some (some 0)
  | sign :: s =>
    if sign = '+' ∨ sign = '-' ∨ sign = minusSign then do
      let (hour, s) ← readWidth? 2 0 s
      let (minute, s) ← readWidth? 2 0 ((readChar? ':' s).getD s)
      if s.isEmpty ∧ hour ≤ 23 ∧ minute ≤ 59 then
        let micros : Int := ((hour * 60 + minute) * 60000000 : Nat)
        some (some (if sign = '+' then micros else -micros))
      else none
    else none

/-- A date at a second of the day. The year zero lies outside the calendar. -/
def atTime (date : Date) (second micros : Nat) (offset : Option Int) : Reading :=
  if date.year = 0 then .error .outside else inCalendar (ofDate? date second micros offset)

/-- A date with a time of day, or a date alone, which means midnight. -/
def readCalendar? (s : List Char) : Option Reading := do
  let (date, s) ← readDate? s
  match s with
  | [] => some (atTime date 0 0 none)
  | sep :: s =>
    if sep = 'T' ∨ sep = 't' ∨ sep = ' ' ∨ sep = '_' then do
      let (second, micros, s) ← readClock? s
      let offset ← readOffset? s
      some (atTime date second micros offset)
    else none

/-- The largest count of seconds; larger counts are milliseconds. -/
def secondsWatershed : Nat := 20000000000

/-- The earliest second after the epoch that is read, the first one of the year zero. -/
def earliestUnix : Int := -62167219200

/-- The latest second after the epoch that is read, the last one of the year 9999. -/
def latestUnix : Int := 253402300799

/-- The timestamp of a count of seconds, or of milliseconds, and some microseconds. -/
def ofUnits (inMillis : Bool) (count : Int) (micros : Nat) : Reading :=
  let (second, extra) : Int × Nat :=
    if inMillis then (count / 1000, (count % 1000).toNat * 1000) else (count, 0)
  let total := micros + extra
  let second := second + (total / 1000000 : Nat)
  if second < earliestUnix ∨ latestUnix < second then .error .malformed
  else inCalendar (ofUnix? second (total % 1000000))

/-- The timestamp of a count of seconds or milliseconds. -/
def ofCount (count : Int) : Reading := ofUnits (secondsWatershed < count.natAbs) count 0

/-- The greatest integer that does not exceed a finite number. -/
def floorOf (negative : Bool) (units : Nat) : Int :=
  Int.fdiv (Binary64.signed negative units) (Binary64.one : Nat)

/-- The nearest integer to a number that is not negative; a half is rounded up. -/
def nearest : Binary64 → Nat
  | .finite _ units _ => (2 * units + Binary64.one) / (2 * Binary64.one)
  | _ => 0

/-- The timestamp of a count with a fraction: the next lower whole count, and what is left, rounded
to microseconds. -/
def ofFractionalCount : Binary64 → Reading
  | .finite negative units fits =>
    let floor := floorOf negative units
    let inMillis := Binary64.one * secondsWatershed < units
    let part := (Binary64.finite negative units fits).sub (.ofInt floor)
    let scale : Int := if inMillis then 1000 else 1000000
    ofUnits inMillis floor (nearest (part.mul (.ofInt scale)))
  | _ => .error .malformed

/-- A number in a text: an optional sign and digits, or a decimal numeral in which a point comes
before any exponent. -/
def readCount (s : List Char) : Reading :=
  let (negative, body) := Binary64.readSign s
  let (whole, rest) := Binary64.spanDigits body
  match rest with
  | [] =>
    let n : Int := Binary64.digitsFrom 0 whole
    if whole.isEmpty then .error .malformed else ofCount (if negative then -n else n)
  | '.' :: _ =>
    match Binary64.readNumeral? negative body with
    | some numeral => ofFractionalCount numeral.value
    | none => .error .malformed
  | _ => .error .malformed

/-- A timestamp in a text. -/
def read (s : List Char) : Reading := (readCalendar? s).getD (readCount s)

end MetricFrames.Timestamp
