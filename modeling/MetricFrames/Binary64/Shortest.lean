import MetricFrames.Binary64.Basic

/-!
# The shortest decimal that reads back

Among the decimals that round to a given number, the shortest ones have the fewest digits, and of
these the one nearest to the number is its decimal. The search goes from coarse to fine grids of
decimals and tests on each grid the two neighbours of the number; if a grid has any point that
rounds to the number, one of its two neighbours does.
-/

namespace MetricFrames

-- Powers of naturals are those of the core library, whatever else is in scope.
attribute [local instance (high)] instPowNat

/-- The number `digits * 10 ^ exponent`. -/
structure Decimal where
  digits : Nat
  exponent : Int
  deriving DecidableEq

namespace Decimal

/-- The digits without zeros at the end. -/
def stripped (d : Decimal) : Decimal :=
  if d.digits ≠ 0 ∧ d.digits % 10 = 0 then stripped ⟨d.digits / 10, d.exponent + 1⟩ else d
termination_by d.digits
decreasing_by omega

/-- How many digits a decimal has. -/
def length (d : Decimal) : Nat := (Nat.toDigits 10 d.digits).length

/-- The power of ten of the leading digit. -/
def leading (d : Decimal) : Int := d.exponent + d.length - 1

end Decimal

namespace Binary64

/-- Four times the units, so that the ends of rounding intervals are whole. The interval of
reals that round to a magnitude reaches half a step up and half a step down, a quarter step at
the lower end of a binade, and has its ends if the significand is even. -/
structure RoundingInterval where
  low : Nat
  centre : Nat
  high : Nat
  closed : Bool

/-- The interval of a magnitude. -/
def roundingInterval (units : Nat) : RoundingInterval :=
  let step := 2 ^ excess units
  let significand := units / step
  let below := if significand = 2 ^ (52 : Nat) ∧ 1 < step then step else 2 * step
  ⟨4 * units - below, 4 * units, 4 * units + 2 * step, significand % 2 = 0⟩

/-- Whether the decimal `m` on the grid of `10 ^ exponent` rounds to the magnitude. -/
def RoundingInterval.holds (i : RoundingInterval) (m : Nat) (exponent : Int) : Bool :=
  let point := m * 10 ^ exponent.toNat * (4 * one)
  let scale := 10 ^ (-exponent).toNat
  if i.closed then i.low * scale ≤ point && point ≤ i.high * scale
  else i.low * scale < point && point < i.high * scale

/-- The better neighbour of the magnitude on the grid of `10 ^ exponent`, if any neighbour rounds
to the magnitude. -/
def RoundingInterval.neighbour? (i : RoundingInterval) (exponent : Int) : Option Decimal :=
  let num := i.centre * 10 ^ (-exponent).toNat
  let den := 10 ^ exponent.toNat * (4 * one)
  let nearest := roundHalfEven num den
  let other := if nearest = num / den then nearest + 1 else num / den
  if i.holds nearest exponent && nearest ≠ 0 then some ⟨nearest, exponent⟩
  else if i.holds other exponent && other ≠ 0 then some ⟨other, exponent⟩
  else none

/-- The exact decimal of a magnitude. -/
def exactDecimal (units : Nat) : Decimal := ⟨units * 5 ^ unitBits, -unitBits⟩

/-- The power of ten of the leading digit of a positive magnitude. -/
def leadingPower (units : Nat) : Int :=
  ((Nat.toDigits 10 (units * 10 ^ (330 : Nat) / one)).length : Int) - 331

/-- The shortest decimal that rounds to a magnitude, without zeros at the end. -/
def shortest (units : Nat) : Decimal :=
  if units = 0 then ⟨0, 0⟩
  else
    let interval := roundingInterval units
    let top := leadingPower units + 1
    let found := (List.range 20).findSome? fun (i : Nat) => interval.neighbour? (top - i)
    (found.getD (exactDecimal units)).stripped

end Binary64
end MetricFrames
