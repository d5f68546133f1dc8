import MetricFrames.Time.Timestamp

/-!
# Timestamps as text

Data carry timestamps in the ISO 8601 form with their own offset; requests carry them in universal
time and to the second, as RFC 3339 has it or in the form of the query language's `within` clause.
-/

namespace MetricFrames

/-- A number with zeros in front up to a width. -/
def padded (width n : Nat) : List Char :=
  let ds := Nat.toDigits 10 n
  List.replicate (width - ds.length) '0' ++ ds

namespace Timestamp

/-- A date with separators; the year is written in `yearWidth` digits at least. -/
def dateText (yearWidth : Nat) (sep : Char) (d : Date) : List Char :=
  padded yearWidth d.year ++ sep :: padded 2 d.month ++ sep :: padded 2 d.day

/-- A time of day. -/
def clockText (secondOfDay : Nat) : List Char :=
  padded 2 (secondOfDay / 3600) ++ ':' :: padded 2 (secondOfDay / 60 % 60) ++
    ':' :: padded 2 (secondOfDay % 60)

/-- The fraction of a second, if it is not zero. -/
def fractionText (micros : Nat) : List Char :=
  if micros = 0 then [] else '.' :: padded 6 micros

/-- An offset in hours and minutes. -/
def offsetText (offset : Int) : List Char :=
  (if offset < 0 then '-' else '+') :: padded 2 (offset.natAbs / 3600000000) ++
    ':' :: padded 2 (offset.natAbs / 60000000 % 60)

/-- The form of data: `T` between date and time, `Z` for universal time. -/
def isoText (t : Timestamp) : List Char :=
  dateText 4 '-' t.date ++ 'T' :: clockText t.secondOfDay ++ fractionText t.micros ++
    match t.offset with
    | none => []
    | some offset => if offset = 0 then ['Z'] else offsetText offset

/-- The form of tables: a space between date and time, and always a numeric offset. -/
def tableText (t : Timestamp) : List Char :=
  dateText 4 '-' t.date ++ ' ' :: clockText t.secondOfDay ++ fractionText t.micros ++
    match t.offset with
    | none => []
    | some offset => offsetText offset

/-- A clock of universal time read to the second in the RFC 3339 form. -/
def requestText (t : Timestamp) : List Char :=
  dateText 0 '-' t.date ++ 'T' :: clockText t.secondOfDay ++ ['Z']

/-- The instant to the second in the RFC 3339 form. -/
def rfc3339 (t : Timestamp) : Except Fault String :=
  t.toUniversal.map fun u => String.ofList u.requestText

/-- The instant to the second as the query language writes it. -/
def windowText (t : Timestamp) : Except Fault String :=
  t.toUniversal.map fun u =>
    String.ofList (dateText 0 '/' u.date ++ '-' :: clockText u.secondOfDay)

end Timestamp
end MetricFrames
