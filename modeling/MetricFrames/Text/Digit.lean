/-!
# Decimal digits of every script

Each script with decimal digits has them in a row of ten, zero first, so the table holds the
zeros only. `digitValue?_ascii` says that the ASCII row is the usual one.
-/

namespace MetricFrames.Text

/-- The code points of the digit zero, script by script. -/
def digitZeros : List Nat := [
  48, 1632, 1776, 1984, 2406, 2534, 2662, 2790, 2918, 3046, 3174, 3302, 3430, 3558, 3664, 3792,
  3872, 4160, 4240, 6112, 6160, 6470, 6608, 6784, 6800, 6992, 7088, 7232, 7248, 42528, 43216,
  43264, 43472, 43504, 43600, 44016, 65296, 66720, 68912, 69734, 69872, 69942, 70096, 70384,
  70736, 70864, 71248, 71360, 71472, 71904, 72016, 72784, 73040, 73120, 92768, 92864, 93008,
  120782, 120792, 120802, 120812, 120822, 123200, 123632, 125264, 130032]

/-- The value of a decimal digit. -/
def digitValue? (c : Char) : Option Nat :=
  (digitZeros.find? fun z => z ≤ c.toNat && c.toNat ≤ z + 9).map (c.toNat - ·)

/-- A decimal digit of any script. -/
def isDigit (c : Char) : Bool := (digitValue? c).isSome

theorem digitValue?_ascii {c : Char} (lo : 48 ≤ c.toNat) (hi : c.toNat ≤ 57) :
    digitValue? c = some (c.toNat - 48) := by
  have h : (decide (48 ≤ c.toNat) && decide (c.toNat ≤ 48 + 9)) = true := by
    simp; omega
  simp only [digitValue?, digitZeros, List.find?_cons, h, Option.map_some]

end MetricFrames.Text
