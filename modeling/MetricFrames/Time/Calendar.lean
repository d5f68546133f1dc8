/-!
# The Gregorian calendar

Days are counted from the first of March of the year zero, so that leap days come last in their
year and every quantity is a natural number. `dayOf` numbers a date, `dateOf` is its inverse. The
calendar of this library runs from the year 1 to the year 9999.
-/

namespace MetricFrames

/-- A date of the Gregorian calendar. -/
structure Date where
  year : Nat
  month : Nat
  day : Nat
  deriving DecidableEq

namespace Calendar

/-- The leap year rule. -/
def isLeap (year : Nat) : Bool := year % 4 = 0 && (year % 100 ≠ 0 || year % 400 = 0)

/-- The length of a month. -/
def monthLength (year month : Nat) : Nat :=
  if month = 2 then (if isLeap year then 29 else 28)
  else if month = 4 ∨ month = 6 ∨ month = 9 ∨ month = 11 then 30
  else 31

/-- Whether the month of a date exists and has its day. -/
def hasDay (d : Date) : Bool :=
  1 ≤ d.month && d.month ≤ 12 && 1 ≤ d.day && d.day ≤ monthLength d.year d.month

/-- Whether a date exists, in the years 1 to 9999. -/
def isValid (d : Date) : Bool := 1 ≤ d.year && d.year ≤ 9999 && hasDay d

/-- The number of a date. -/
def dayOf (d : Date) : Nat :=
  let year := if d.month ≤ 2 then d.year - 1 else d.year
  let month := if d.month ≤ 2 then d.month + 9 else d.month - 3
  let inEra := year % 400
  (year / 400) * 146097 + (inEra * 365 + inEra / 4 - inEra / 100) +
    ((153 * month + 2) / 5 + d.day - 1)

/-- The date with a number. -/
def dateOf (n : Nat) : Date :=
  let inEra := n % 146097
  let year := (inEra - inEra / 1460 + inEra / 36524 - inEra / 146096) / 365
  let inYear := inEra - (365 * year + year / 4 - year / 100)
  let month := (5 * inYear + 2) / 153
  let day := inYear - (153 * month + 2) / 5 + 1
  if month < 10 then ⟨n / 146097 * 400 + year, month + 3, day⟩
  else ⟨n / 146097 * 400 + year + 1, month - 9, day⟩

/-- The number of 1 January 1970. -/
def epochDay : Nat := 719468

/-- The number of 1 January of the year 1. -/
def firstDay : Nat := 306

/-- The number of 31 December 9999. -/
def lastDay : Nat := 3652364

/-- The seconds of a day. -/
def daySeconds : Nat := 86400

example : dayOf ⟨1970, 1, 1⟩ = epochDay ∧ dayOf ⟨1, 1, 1⟩ = firstDay ∧
    dayOf ⟨9999, 12, 31⟩ = lastDay := by decide

example : dateOf epochDay = ⟨1970, 1, 1⟩ ∧ dateOf (epochDay - 1) = ⟨1969, 12, 31⟩ ∧
    dateOf lastDay = ⟨9999, 12, 31⟩ ∧ dateOf (dayOf ⟨2024, 2, 29⟩) = ⟨2024, 2, 29⟩ := by decide

end Calendar
end MetricFrames
