import Mathlib.Algebra.Order.Field.Power
import MetricFrames.Binary64.Reading
import MetricFrames.Proofs.Binary64.Intervals
import Mathlib.Tactic.Linarith

/-!
# Which numerals read as a number

A numeral reads as a number of the format other than zero exactly if it has its sign and its exact
value rounds to the magnitude (`Numeral.value_eq_finite_iff`). The values that do so have no gaps
and lie between half and three halves of the magnitude.
-/

namespace MetricFrames

-- Powers of naturals are those of the core library, whatever else is in scope.
attribute [local instance (high)] instPowNat

/-- The value of a decimal. -/
def Decimal.exact (d : Decimal) : ℚ := d.digits * (10 : ℚ) ^ d.exponent

namespace Numeral

/-- The size of a numeral without its sign. -/
def magnitude (n : Numeral) : ℚ := n.digits * (10 : ℚ) ^ n.exponent

/-- The value of a numeral. -/
def exact (n : Numeral) : ℚ := if n.negative then -n.magnitude else n.magnitude

/-- How many digits a numeral has. -/
def length (n : Numeral) : Nat := (Nat.toDigits 10 n.digits).length

end Numeral

/-! ### Powers of ten -/

section

variable {n : Nat} {e i j : ℤ}

theorem lt_ten_pow_length (n : Nat) : n < 10 ^ (Nat.toDigits 10 n).length :=
  (Nat.length_toDigits_le_iff (by decide) Nat.length_toDigits_pos).mp (Nat.le_refl _)

theorem ten_pow_length_le (hn : n ≠ 0) : 10 ^ ((Nat.toDigits 10 n).length - 1) ≤ n := by
  have hpos : 0 < (Nat.toDigits 10 n).length := Nat.length_toDigits_pos
  by_contra hlt
  rcases Nat.eq_zero_or_pos ((Nat.toDigits 10 n).length - 1) with hone | hmore
  · rw [hone, Nat.pow_zero] at hlt
    omega
  · have hle := (Nat.length_toDigits_le_iff (by decide) hmore).mpr (Nat.not_le.mp hlt)
    omega

theorem ten_zpow_pos (e : ℤ) : (0 : ℚ) < 10 ^ e := zpow_pos (by norm_num) e

theorem ten_zpow_le_iff : (10 : ℚ) ^ i ≤ 10 ^ j ↔ i ≤ j := zpow_le_zpow_iff_right₀ (by norm_num)

theorem ten_zpow_lt_iff : (10 : ℚ) ^ i < 10 ^ j ↔ i < j := zpow_lt_zpow_iff_right₀ (by norm_num)

theorem ten_zpow_natCast (k : Nat) : (10 : ℚ) ^ (k : ℤ) = (10 ^ k : Nat) := by
  rw [zpow_natCast]
  push_cast
  rfl

theorem ten_zpow_add (i j : ℤ) : (10 : ℚ) ^ (i + j) = 10 ^ i * 10 ^ j :=
  zpow_add₀ (by norm_num) i j

theorem ten_zpow_neg_mul (k : Nat) : (10 : ℚ) ^ (-(k : ℤ)) * (10 ^ k : Nat) = 1 := by
  rw [← ten_zpow_natCast, ← ten_zpow_add, neg_add_cancel, zpow_zero]

theorem ten_zpow_eq_div (e : ℤ) :
    (10 : ℚ) ^ e = (10 ^ e.toNat : Nat) / (10 ^ (-e).toNat : Nat) := by
  have hsplit : e = e.toNat - (-e).toNat := by omega
  rw [← ten_zpow_natCast, ← ten_zpow_natCast, ← zpow_sub₀ (by norm_num), ← hsplit]

theorem ten_zpow_le_mul (hn : n ≠ 0) (e : ℤ) :
    (10 : ℚ) ^ (e + (Nat.toDigits 10 n).length - 1) ≤ n * 10 ^ e := by
  have hpos : 0 < (Nat.toDigits 10 n).length := Nat.length_toDigits_pos
  have hsum : e + (Nat.toDigits 10 n).length - 1 = ((Nat.toDigits 10 n).length - 1 : Nat) + e := by
    omega
  have hle : ((10 ^ ((Nat.toDigits 10 n).length - 1) : Nat) : ℚ) ≤ n := by
    exact_mod_cast ten_pow_length_le hn
  rw [hsum, ten_zpow_add, ten_zpow_natCast]
  exact mul_le_mul_of_nonneg_right hle (ten_zpow_pos e).le

theorem mul_lt_ten_zpow (n : Nat) (e : ℤ) :
    n * (10 : ℚ) ^ e < 10 ^ (e + (Nat.toDigits 10 n).length) := by
  have hlt : (n : ℚ) < (10 ^ (Nat.toDigits 10 n).length : Nat) := by
    exact_mod_cast lt_ten_pow_length n
  rw [add_comm, ten_zpow_add, ten_zpow_natCast]
  exact mul_lt_mul_of_pos_right hlt (ten_zpow_pos e)

end

namespace Binary64

/-! ### The values that round to a magnitude -/

/-- The sizes that round to a magnitude. -/
def roundsTo (units : Nat) : Set ℚ := {q | 4 * (q * one) ∈ (roundingInterval units).points}

variable {num den units : Nat} {q r t : ℚ} {negative : Bool} {fits : Fits units}

theorem one_cast_pos : (0 : ℚ) < one := by exact_mod_cast one_pos

theorem mem_roundsTo_of_between (hq : q ∈ roundsTo units) (hr : r ∈ roundsTo units) (hqt : q ≤ t)
    (htr : t ≤ r) : t ∈ roundsTo units := by
  have hone := one_cast_pos
  refine (RoundingInterval.ordConnected_points _).out hq hr ⟨?_, ?_⟩
  · have := mul_le_mul_of_nonneg_right hqt hone.le
    linarith
  · have := mul_le_mul_of_nonneg_right htr hone.le
    linarith

theorem roundUnits_mul_one_eq_iff (fits : Fits units) (hunits : 0 < units) (pos : 0 < den) :
    roundUnits (num * one) den = units ↔ (num / den : ℚ) ∈ roundsTo units := by
  rw [roundUnits_eq_iff fits hunits pos, Nat.cast_mul, mul_div_right_comm]
  rfl

theorem self_mem_roundsTo (fits : Fits units) (hunits : 0 < units) :
    (units / one : ℚ) ∈ roundsTo units := by
  rw [← roundUnits_mul_one_eq_iff fits hunits one_pos]
  have hself := roundUnits_mul_right one_pos units 1
  rw [Nat.one_mul, roundUnits_of_fits fits] at hself
  exact hself

theorem two_pow_excess_le (hunits : 0 < units) : 2 ^ excess units ≤ units := by
  rcases Nat.eq_zero_or_pos (excess units) with he | he
  · rw [he]
    exact hunits
  · exact (Nat.pow_le_pow_right (by decide) (by omega)).trans (two_pow_le_of_excess_pos he)

theorem le_of_mem_roundsTo (hunits : 0 < units) (hq : q ∈ roundsTo units) :
    (units : ℚ) ≤ 2 * (q * one) ∧ 2 * (q * one) ≤ 3 * units := by
  have hstep := two_pow_excess_le hunits
  have hlow : 2 * units ≤ (roundingInterval units).low := by
    simp only [roundingInterval]
    split <;> omega
  have hhigh : (roundingInterval units).high ≤ 6 * units := by
    simp only [roundingInterval]
    omega
  have hbounds : ((roundingInterval units).low : ℚ) ≤ 4 * (q * one) ∧
      4 * (q * one) ≤ (roundingInterval units).high := by
    unfold roundsTo RoundingInterval.points at hq
    split at hq
    · exact hq
    · exact ⟨hq.1.le, hq.2.le⟩
  have hlow' : (2 * units : ℚ) ≤ (roundingInterval units).low := by exact_mod_cast hlow
  have hhigh' : ((roundingInterval units).high : ℚ) ≤ 6 * units := by exact_mod_cast hhigh
  constructor
  · linarith [hbounds.1]
  · linarith [hbounds.2]

/-- What exceeds a magnitude by less than half a step rounds to it. -/
theorem mem_roundsTo_of_le (hunits : 0 < units) (hlow : (units : ℚ) ≤ q * one)
    (hhigh : 2 * (q * one) < 2 * units + (2 ^ excess units : Nat)) : q ∈ roundsTo units := by
  have hstep : 0 < 2 ^ excess units := Nat.two_pow_pos _
  have hbelow : (roundingInterval units).low < 4 * units := by
    simp only [roundingInterval]
    split <;> omega
  have habove : (roundingInterval units).high = 4 * units + 2 * 2 ^ excess units := rfl
  have hbelow' : ((roundingInterval units).low : ℚ) < 4 * units := by exact_mod_cast hbelow
  have habove' : ((roundingInterval units).high : ℚ) =
      4 * units + 2 * (2 ^ excess units : Nat) := by exact_mod_cast habove
  unfold roundsTo RoundingInterval.points
  split
  · exact ⟨by linarith, by linarith⟩
  · exact ⟨by linarith, by linarith⟩

theorem ofRatio_eq_finite_iff {sign : Bool} (hunits : 0 < units) (pos : 0 < den) :
    ofRatio sign num den = .finite negative units fits ↔
      sign = negative ∧ (num / den : ℚ) ∈ roundsTo units := by
  rw [← roundUnits_mul_one_eq_iff fits hunits pos, ofRatio, ofUnits, dif_pos pos]
  split
  · rw [finite.injEq]
  · next hlarge =>
    constructor
    · intro h
      cases h
    · rintro ⟨-, rfl⟩
      exact absurd fits.2 hlarge

end Binary64

namespace Numeral

open Binary64

variable {n : Numeral} {negative : Bool} {units : Nat} {fits : Fits units}

theorem magnitude_lt (fits : Fits units) (hunits : 0 < units)
    (h : n.magnitude ∈ roundsTo units) : n.magnitude < 10 ^ (310 : ℤ) := by
  have hbound := (le_of_mem_roundsTo hunits h).2
  have hlimit : (units : ℚ) < limit := by exact_mod_cast fits.2
  have hfar : 3 * limit ≤ 2 * (10 ^ (310 : Nat) * one) := by decide +kernel
  have hfar' : (3 * limit : ℚ) ≤ 2 * ((10 ^ (310 : Nat) : Nat) * one) := by exact_mod_cast hfar
  have hpow : (10 : ℚ) ^ (310 : ℤ) = (10 ^ (310 : Nat) : Nat) := ten_zpow_natCast 310
  rw [hpow]
  refine lt_of_mul_lt_mul_right ?_ one_cast_pos.le
  linarith

theorem lt_magnitude (hunits : 0 < units) (h : n.magnitude ∈ roundsTo units) :
    10 ^ (-330 : ℤ) < n.magnitude := by
  have hbound := (le_of_mem_roundsTo hunits h).1
  have hleast : (1 : ℚ) ≤ units := by exact_mod_cast hunits
  have hfar : 2 * one < 10 ^ (330 : Nat) := by decide +kernel
  have hfar' : (2 * one : ℚ) < (10 ^ (330 : Nat) : Nat) := by exact_mod_cast hfar
  have hmag : 0 < n.magnitude := by
    by_contra hnot
    have hprod := mul_nonpos_of_nonpos_of_nonneg (not_lt.mp hnot) one_cast_pos.le
    linarith
  have hinv : (10 : ℚ) ^ (-330 : ℤ) * (10 ^ (330 : Nat) : Nat) = 1 :=
    ten_zpow_neg_mul 330
  have hten : (0 : ℚ) < (10 ^ (330 : Nat) : Nat) := lt_trans (by linarith [one_cast_pos]) hfar'
  have hscaled := mul_lt_mul_of_pos_left hfar' hmag
  refine lt_of_mul_lt_mul_right ?_ hten.le
  linarith

/-- A numeral reads as a number other than zero exactly if it has its sign and rounds to its
magnitude. -/
theorem value_eq_finite_iff (hunits : 0 < units) : n.value = .finite negative units fits ↔
      n.negative = negative ∧ n.magnitude ∈ roundsTo units := by
  simp only [value]
  split
  · next hzero =>
    have hmag : n.magnitude = 0 := by rw [magnitude, hzero, Nat.cast_zero, zero_mul]
    constructor
    · intro h
      cases h
      exact absurd hunits (Nat.lt_irrefl 0)
    · rintro ⟨-, h⟩
      have hlow := lt_magnitude hunits h
      have hpos := ten_zpow_pos (-330)
      rw [hmag] at hlow
      linarith
  · next hdigits =>
    have hlow := ten_zpow_le_mul hdigits n.exponent
    have hhigh := mul_lt_ten_zpow n.digits n.exponent
    -- What the count of digits alone decides is so far out of range that it rounds to no magnitude.
    split
    · next htop =>
      constructor
      · intro h
        cases h
      · rintro ⟨-, h⟩
        have hmag := magnitude_lt fits hunits h
        have hexp := ten_zpow_lt_iff.mp (hlow.trans_lt hmag)
        omega
    · split
      · next htop =>
        constructor
        · intro h
          cases h
          exact absurd hunits (Nat.lt_irrefl 0)
        · rintro ⟨-, h⟩
          have hmag := lt_magnitude hunits h
          have hexp := ten_zpow_lt_iff.mp (hmag.trans hhigh)
          omega
      · have hdiv := ten_zpow_eq_div n.exponent
        split
        · next hnonneg =>
          have hneg : (-n.exponent).toNat = 0 := by omega
          have hmag : n.magnitude = (n.digits * 10 ^ n.exponent.toNat : Nat) / (1 : Nat) := by
            rw [magnitude, hdiv, hneg, Nat.pow_zero, Nat.cast_mul, mul_div_assoc]
          rw [ofRatio_eq_finite_iff hunits Nat.one_pos, hmag]
        · next hneg =>
          have hpos : n.exponent.toNat = 0 := by omega
          have habs : (-n.exponent).toNat = n.exponent.natAbs := by omega
          have hmag : n.magnitude = (n.digits : Nat) / (10 ^ n.exponent.natAbs : Nat) := by
            rw [magnitude, hdiv, hpos, habs, Nat.pow_zero, Nat.cast_one, mul_one_div]
          rw [ofRatio_eq_finite_iff hunits (Nat.pow_pos (by decide)), hmag]

end Numeral

end MetricFrames
