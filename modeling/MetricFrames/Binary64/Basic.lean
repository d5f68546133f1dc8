/-!
# Double-precision numbers

A finite number of the binary64 format is a whole number of units of `2^-1074`: a significand
below `2^53` shifted to the left, and less than `2^1024` in all. So sums and products of such
numbers are exact integers, and all that is left to a rule is rounding. `roundUnits` rounds a
quotient of units to the nearest number with 53 significant bits, a tie to the even significand;
`fits_roundUnits` says that the result belongs to the format.
-/

namespace MetricFrames

-- Powers of naturals are those of the core library, whatever else is in scope.
attribute [local instance (high)] instPowNat

/-- The number one is `2 ^ unitBits` units. -/
def Binary64.unitBits : Nat := 1074

/-- Magnitudes of the format have fewer bits than this. -/
def Binary64.limitBits : Nat := 2098

/-- The units in the number one. -/
def Binary64.one : Nat := 2 ^ unitBits

/-- The first magnitude, in units, that is too large for the format. -/
def Binary64.limit : Nat := 2 ^ limitBits

/-- A magnitude of the format: a significand of at most 53 bits, shifted. -/
def Binary64.Fits (units : Nat) : Prop :=
  (∃ significand shift : Nat, significand < 2 ^ (53 : Nat) ∧ units = significand * 2 ^ shift) ∧
    units < Binary64.limit

/-- A number of the binary64 format. All not-a-number codes are one value. -/
inductive Binary64 where
  | nan
  | infinite (negative : Bool)
  | finite (negative : Bool) (units : Nat) (fits : Binary64.Fits units)
  deriving DecidableEq

/-- The nearest integer to a quotient; a half goes to the even neighbour. -/
def roundHalfEven (num den : Nat) : Nat :=
  let q := num / den
  let r := num % den
  if 2 * r < den then q else if den < 2 * r then q + 1 else q + q % 2

theorem roundHalfEven_le_succ (num den : Nat) : roundHalfEven num den ≤ num / den + 1 := by
  simp only [roundHalfEven]
  split
  · omega
  · split <;> omega

/-- An integer below a bound has a rounded value that at most reaches it. -/
theorem roundHalfEven_le {num den b : Nat} (h : num < b * den) : roundHalfEven num den ≤ b :=
  Nat.le_trans (roundHalfEven_le_succ num den) (Nat.div_lt_of_lt_mul (Nat.mul_comm b den ▸ h))

namespace Binary64

/-- By how many bits a magnitude exceeds a significand of 53 bits. -/
def excess (units : Nat) : Nat := units.log2 - 52

theorem lt_two_pow_excess (units : Nat) : units < 2 ^ (53 : Nat) * 2 ^ excess units := by
  rw [← Nat.pow_add]
  by_cases h : units = 0
  · subst h; exact Nat.pow_pos (by decide)
  · exact (Nat.log2_lt h).1 (by simp only [excess]; omega)

/-- A quotient of units rounded to 53 significant bits, a tie to the even significand. -/
def roundUnits (num den : Nat) : Nat :=
  let shift := excess (num / den)
  roundHalfEven num (den * 2 ^ shift) * 2 ^ shift

theorem shifted_roundUnits (num den : Nat) (pos : 0 < den) :
    ∃ significand shift : Nat, significand < 2 ^ (53 : Nat) ∧
      roundUnits num den = significand * 2 ^ shift := by
  have bound : num < 2 ^ (53 : Nat) * (den * 2 ^ excess (num / den)) := by
    have h := lt_two_pow_excess (num / den)
    have := (Nat.div_lt_iff_lt_mul pos).1 h
    calc num < 2 ^ (53 : Nat) * 2 ^ excess (num / den) * den := this
      _ = 2 ^ (53 : Nat) * (den * 2 ^ excess (num / den)) := by
        rw [Nat.mul_assoc, Nat.mul_comm (2 ^ excess (num / den)) den]
  have top := roundHalfEven_le bound
  rcases Nat.lt_or_eq_of_le top with lt | eq
  · exact ⟨_, _, lt, rfl⟩
  · refine ⟨2 ^ (52 : Nat), excess (num / den) + 1, by decide, ?_⟩
    simp only [roundUnits, eq]
    rw [Nat.pow_succ 2 (excess (num / den))]
    omega

/-- Rounding lands in the format unless it lands beyond its range. -/
theorem fits_roundUnits {num den : Nat} (pos : 0 < den) (small : roundUnits num den < limit) :
    Fits (roundUnits num den) :=
  ⟨shifted_roundUnits num den pos, small⟩

theorem one_pos : 0 < one := Nat.two_pow_pos unitBits

theorem limit_pos : 0 < limit := Nat.two_pow_pos limitBits

theorem fits_zero : Fits 0 := ⟨⟨0, 0, by decide, rfl⟩, limit_pos⟩

/-- Zero with a sign. -/
def zero (negative : Bool) : Binary64 := .finite negative 0 fits_zero

/-- The number nearest to a quotient of units; beyond the range, an infinity. -/
def ofUnits (negative : Bool) (num den : Nat) : Binary64 :=
  if pos : 0 < den then
    if small : roundUnits num den < limit then
      .finite negative (roundUnits num den) (fits_roundUnits pos small)
    else .infinite negative
  else .nan

/-- The number nearest to a quotient; beyond the range, an infinity. -/
def ofRatio (negative : Bool) (num den : Nat) : Binary64 := ofUnits negative (num * one) den

/-- The number nearest to an integer; beyond the range, an infinity. -/
def ofInt (i : Int) : Binary64 := ofRatio (i < 0) i.natAbs 1

instance : Inhabited Binary64 := ⟨zero false⟩

/-- Neither infinite nor the not-a-number value. -/
def isFinite : Binary64 → Bool
  | .finite .. => true
  | _ => false

/-- The number without its fraction, if it is finite. -/
def truncate? : Binary64 → Option Int
  | .finite negative units _ =>
    let whole : Int := (units / one : Nat)
    some (if negative then -whole else whole)
  | _ => none

/-- Whether a number is finite and has no fraction. -/
def isWhole : Binary64 → Bool
  | .finite _ units _ => units % one == 0
  | _ => false

/-- The sign and magnitude of a finite number as one integer. -/
def signed (negative : Bool) (units : Nat) : Int := if negative then -(units : Int) else units

/-- Strictly less; the not-a-number value is less than nothing and more than nothing. -/
def lt : Binary64 → Binary64 → Bool
  | .nan, _ => false
  | _, .nan => false
  | .infinite a, .infinite b => a && !b
  | .infinite a, .finite .. => a
  | .finite .., .infinite b => !b
  | .finite a m _, .finite b n _ => signed a m < signed b n

/-- Equality of numbers: both zeros are equal, the not-a-number value equals nothing. -/
def same : Binary64 → Binary64 → Bool
  | .nan, _ => false
  | _, .nan => false
  | .infinite a, .infinite b => a == b
  | .finite a m _, .finite b n _ => signed a m == signed b n
  | _, _ => false

/-- Less or equal. -/
def le (x y : Binary64) : Bool := x.lt y || x.same y

end Binary64
end MetricFrames
