import MetricFrames.Binary64.Basic
import MetricFrames.Fault

/-!
# Arithmetic in double precision

Sums and products are computed exactly in units and rounded once. A power is computed with a
significand of 320 bits before it is rounded, which is exact for every result that 320 bits
hold. Conversions to integers and quotients of integers fail with their cause.
-/

namespace MetricFrames.Binary64

-- Powers of naturals are those of the core library, whatever else is in scope.
attribute [local instance (high)] instPowNat

/-- The integer part, if there is one. -/
def toInteger : Binary64 → Except Fault Int
  | .nan => .error .nanToInteger
  | .infinite _ => .error .infinityToInteger
  | .finite negative units _ =>
    let whole : Int := (units / one : Nat)
    .ok (if negative then -whole else whole)

/-- A number that may not be infinite. -/
def inRange (tooLarge : Fault) : Binary64 → Except Fault Binary64
  | .infinite _ => .error tooLarge
  | x => .ok x

/-- The number nearest to an integer, if it is in range. -/
def ofInteger (i : Int) : Except Fault Binary64 := (ofInt i).inRange .integerTooLarge

/-- The number nearest to the quotient of an integer by a positive one, if it is in range. -/
def quotient (i : Int) (den : Nat) : Except Fault Binary64 :=
  (ofRatio (i < 0) i.natAbs den).inRange .quotientTooLarge

/-- The opposite number. -/
def neg : Binary64 → Binary64
  | .nan => .nan
  | .infinite negative => .infinite !negative
  | .finite negative units fits => .finite (!negative) units fits

/-- The sum. -/
def add : Binary64 → Binary64 → Binary64
  | .nan, _ => .nan
  | _, .nan => .nan
  | .infinite a, .infinite b => if a = b then .infinite a else .nan
  | .infinite a, .finite .. => .infinite a
  | .finite .., .infinite b => .infinite b
  | .finite a m _, .finite b n _ =>
    let sum := signed a m + signed b n
    if sum = 0 then zero (a && b) else ofUnits (sum < 0) sum.natAbs 1

/-- The difference. -/
def sub (x y : Binary64) : Binary64 := x.add y.neg

/-- The product. -/
def mul : Binary64 → Binary64 → Binary64
  | .nan, _ => .nan
  | _, .nan => .nan
  | .infinite a, .infinite b => .infinite (a != b)
  | .infinite a, .finite b n _ => if n = 0 then .nan else .infinite (a != b)
  | .finite a m _, .infinite b => if m = 0 then .nan else .infinite (a != b)
  | .finite a m _, .finite b n _ => ofUnits (a != b) (m * n) one

/-! ### Powers -/

/-- The number `significand * 2 ^ exponent`. -/
structure Scaled where
  significand : Nat
  exponent : Int

namespace Scaled

/-- Drops the bits beyond the first 320. -/
def cropped (s : Scaled) : Scaled :=
  let extra := s.significand.log2 - 319
  ⟨s.significand / 2 ^ extra, s.exponent + extra⟩

/-- The product, to 320 bits. -/
def mul (s t : Scaled) : Scaled :=
  cropped ⟨s.significand * t.significand, s.exponent + t.exponent⟩

/-- The power, by squaring. -/
def pow (s : Scaled) (n : Nat) : Scaled :=
  if n = 0 then ⟨1, 0⟩
  else
    let half := pow (s.mul s) (n / 2)
    if n % 2 = 1 then s.mul half else half
termination_by n

/-- The reciprocal, to 320 bits. -/
def inverse (s : Scaled) : Scaled :=
  let bits := s.significand.log2 + 320
  ⟨2 ^ bits / s.significand, -s.exponent - bits⟩

/-- The nearest number of the format. Results far outside its range are decided by size. -/
def round (negative : Bool) (s : Scaled) : Binary64 :=
  let top : Int := s.exponent + s.significand.log2
  let shift : Int := s.exponent + unitBits
  if 1024 < top then .infinite negative
  else if top < -1100 then zero negative
  else if 0 ≤ shift then ofUnits negative (s.significand * 2 ^ shift.toNat) 1
  else ofUnits negative s.significand (2 ^ shift.natAbs)

end Scaled

/-- A positive magnitude to an integer power. -/
def powUnits (negative : Bool) (units : Nat) (n : Int) : Except Fault Binary64 :=
  let power := Scaled.pow ⟨units, -unitBits⟩ n.natAbs
  ((if n < 0 then power.inverse else power).round negative).inRange .powerTooLarge

/-- A number to an integer power; the power itself is first taken to double precision. -/
def pow (x : Binary64) (n : Int) : Except Fault Binary64 := do
  let exponent ← (ofInteger n).bind toInteger
  let odd := exponent % 2 ≠ 0
  if exponent = 0 then return ofInt 1
  match x with
  | .nan => return .nan
  | .infinite negative =>
    return if 0 < exponent then .infinite (negative && odd) else zero (negative && odd)
  | .finite negative units _ =>
    if units = 0 then
      if exponent < 0 then .error .zeroToNegativePower else return zero (negative && odd)
    else powUnits (negative && odd) units exponent

end MetricFrames.Binary64
