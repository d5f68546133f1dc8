import MetricFrames.Binary64.Arithmetic
import MetricFrames.Time.Calendar

/-!
# Timestamps

A timestamp is what a clock on some wall shows, to the microsecond, with the clock's offset from
universal time if it is known. A timestamp without an offset is read as universal time where an
instant is needed, but cannot be compared with one that has an offset.
-/

namespace MetricFrames

/-- The first second of the calendar. -/
def Timestamp.firstSecond : Nat := Calendar.firstDay * Calendar.daySeconds

/-- The last second of the calendar. -/
def Timestamp.lastSecond : Nat := Calendar.lastDay * Calendar.daySeconds + 86399

/-- The microseconds of a day. -/
def Timestamp.dayMicros : Nat := 86400000000

/-- A reading of a wall clock. `wall` counts its seconds from the first of March of the year zero
and stays inside the calendar; `offset` is how many microseconds the clock is ahead of universal
time, less than a day. -/
structure Timestamp where
  wall : Nat
  micros : Nat
  offset : Option Int
  firstSecond_le : Timestamp.firstSecond ≤ wall
  le_lastSecond : wall ≤ Timestamp.lastSecond
  micros_lt : micros < 1000000
  offset_lt : (offset.getD 0).natAbs < Timestamp.dayMicros
  deriving DecidableEq

namespace Timestamp

/-- The second in which the Unix epoch begins. -/
def epochSecond : Nat := Calendar.epochDay * Calendar.daySeconds

/-- The timestamp with these parts, if it is one of the calendar. -/
def make? (wall micros : Nat) (offset : Option Int) : Option Timestamp :=
  if h : firstSecond ≤ wall ∧ wall ≤ lastSecond ∧ micros < 1000000 ∧
      (offset.getD 0).natAbs < dayMicros then
    some ⟨wall, micros, offset, h.1, h.2.1, h.2.2.1, h.2.2.2⟩
  else none

/-- The timestamp of a date and time of day. -/
def ofDate? (date : Date) (secondOfDay micros : Nat) (offset : Option Int) : Option Timestamp :=
  make? (Calendar.dayOf date * Calendar.daySeconds + secondOfDay) micros offset

/-- The timestamp in universal time of a second and microseconds after the Unix epoch. -/
def ofUnix? (second : Int) (micros : Nat) : Option Timestamp :=
  make? (second + epochSecond).toNat micros (some 0)

/-- The date on the wall. -/
def date (t : Timestamp) : Date := Calendar.dateOf (t.wall / Calendar.daySeconds)

/-- The time of day on the wall, in seconds. -/
def secondOfDay (t : Timestamp) : Nat := t.wall % Calendar.daySeconds

/-- The microsecond of universal time; a timestamp without offset is taken as universal time. -/
def instantMicros (t : Timestamp) : Int := t.wall * 1000000 + t.micros - t.offset.getD 0

/-- The second of universal time. -/
def instant (t : Timestamp) : Int := t.instantMicros / 1000000

/-- The same instant on a clock of universal time, if the calendar has it. -/
def toUniversal (t : Timestamp) : Except Fault Timestamp :=
  if h : (firstSecond : Int) ≤ t.instant ∧ t.instant ≤ lastSecond then
    .ok ⟨t.instant.toNat, (t.instantMicros % 1000000).toNat, some 0, by omega, by omega, by omega,
      by decide⟩
  else .error .dateOutOfRange

/-- The whole seconds from one timestamp to another. The difference in seconds is first taken to
double precision, then its fraction is dropped. -/
def secondsUntil (start stop : Timestamp) : Except Fault Int :=
  if start.offset.isSome = stop.offset.isSome then
    (Binary64.quotient (stop.instantMicros - start.instantMicros) 1000000).bind
      Binary64.toInteger
  else .error .mixedOffsets

/-- Whether two timestamps denote the same instant; with and without offset never do. -/
def same (s t : Timestamp) : Bool :=
  s.offset.isSome == t.offset.isSome && s.instantMicros == t.instantMicros

end Timestamp
end MetricFrames
