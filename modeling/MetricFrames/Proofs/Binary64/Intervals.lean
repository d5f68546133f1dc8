import Mathlib.Order.Interval.Set.OrdConnected
import MetricFrames.Binary64.Shortest
import MetricFrames.Proofs.Binary64.Rounding
import Mathlib.Data.Rat.Cast.Order
import Mathlib.Tactic.Ring

/-!
# What rounds to a number

The quotients that round to a magnitude of the format are the points of its rounding interval
(`roundUnits_eq_iff`): half a step up and half a step down, but a quarter of a step down from the
lower end of a binade; an end belongs to the interval if the significand is even.
-/

namespace MetricFrames

-- Powers of naturals are those of the core library, whatever else is in scope.
attribute [local instance (high)] instPowNat

namespace Binary64

variable {num den units : Nat}

/-! ### Steps of a magnitude -/

theorem excess_cases (n e : Nat) :
    0 < e ∧ n < 2 ^ (52 + e) ∨ excess n = e ∨ 2 ^ (53 + e) ≤ n := by
  rcases Nat.lt_or_ge n (2 ^ (53 + e)) with hhigh | hhigh
  · rcases Nat.lt_or_ge n (2 ^ (52 + e)) with hlow | hlow
    · rcases Nat.eq_zero_or_pos e with rfl | he
      · right; left
        rcases Nat.eq_zero_or_pos n with rfl | hn
        · rfl
        · have hlog : n.log2 < 52 := (Nat.log2_lt (by omega)).mpr hlow
          unfold excess
          omega
      · exact .inl ⟨he, hlow⟩
    · exact .inr (.inl (excess_eq hlow hhigh))
  · exact .inr (.inr hhigh)

theorem Fits.eq_significand_mul (fits : Fits units) :
    units = units / 2 ^ excess units * 2 ^ excess units := by
  obtain ⟨q, hq⟩ : ∃ q, units = q * 2 ^ excess units := by
    by_cases he : excess units = 0
    · exact ⟨units, by rw [he, Nat.pow_zero, Nat.mul_one]⟩
    · exact fits.exists_eq_mul (two_pow_le_of_excess_pos (by omega))
  have hdvd : 2 ^ excess units ∣ units := ⟨q, hq.trans (Nat.mul_comm _ _)⟩
  exact (Nat.div_mul_cancel hdvd).symm

theorem significand_lt (units : Nat) : units / 2 ^ excess units < 2 ^ (53 : Nat) := by
  refine (Nat.div_lt_iff_lt_mul (Nat.two_pow_pos _)).mpr ?_
  exact lt_two_pow_excess units

theorem two_pow_le_significand (he : 0 < excess units) :
    2 ^ (52 : Nat) ≤ units / 2 ^ excess units := by
  refine (Nat.le_div_iff_mul_le (Nat.two_pow_pos _)).mpr ?_
  rw [← Nat.pow_add]
  exact two_pow_le_of_excess_pos he

/-- A quotient lies below the magnitudes that are shifted by a number of bits, or among them and is
rounded in their steps, or above them. -/
theorem roundUnits_cases (pos : 0 < den) {e : Nat} (he : 52 + e < limitBits) (num : Nat) :
    (0 < e ∧ num < 2 ^ (52 : Nat) * (den * 2 ^ e) ∧
        roundUnits num den ≤ 2 ^ (52 : Nat) * 2 ^ e) ∨
      roundUnits num den = roundHalfEven num (den * 2 ^ e) * 2 ^ e ∨
      (2 ^ (53 : Nat) * (den * 2 ^ e) ≤ num ∧ 2 ^ (53 : Nat) * 2 ^ e ≤ roundUnits num den) := by
  have hsplit : ∀ k, 2 ^ (k + e) * den = 2 ^ k * (den * 2 ^ e) := by
    intro k
    rw [Nat.pow_add, Nat.mul_assoc, Nat.mul_comm den]
  rcases excess_cases (num / den) e with ⟨hpos, hq⟩ | hq | hq
  · have hnum : num < 2 ^ (52 + e) * den := (Nat.div_lt_iff_lt_mul pos).mp hq
    have hfits : Fits (2 ^ (52 + e)) :=
      ⟨⟨1, 52 + e, by decide, (Nat.one_mul _).symm⟩, Nat.pow_lt_pow_right (by decide) he⟩
    have hround := roundUnits_le pos hfits (Nat.le_of_lt hnum)
    rw [hsplit] at hnum
    rw [Nat.pow_add] at hround
    exact .inl ⟨hpos, hnum, hround⟩
  · exact .inr (.inl (by rw [roundUnits, hq]))
  · have hround := two_pow_le_roundUnits pos hq
    have hnum : 2 ^ (53 + e) * den ≤ num := (Nat.le_div_iff_mul_le pos).mp hq
    rw [hsplit] at hnum
    rw [Nat.pow_add] at hround
    exact .inr (.inr ⟨hnum, hround⟩)

/-! ### The ends of the interval -/

variable {s e : Nat}

/-- Up to half a step above a magnitude, quotients are rounded to it or further down. -/
theorem roundUnits_le_mul_iff (num : Nat) (pos : 0 < den) (hs : s < 2 ^ (53 : Nat))
    (hfull : 0 < e → 2 ^ (52 : Nat) ≤ s) (he : 52 + e < limitBits) :
    roundUnits num den ≤ s * 2 ^ e ↔ 2 * num < (2 * s + 1) * (den * 2 ^ e) ∨
      s % 2 = 0 ∧ 2 * num = (2 * s + 1) * (den * 2 ^ e) := by
  have hstep : 0 < 2 ^ e := Nat.two_pow_pos e
  have hden : 0 < den * 2 ^ e := Nat.mul_pos pos hstep
  have hhalf : (2 * s + 1) * (den * 2 ^ e) = 2 * (s * (den * 2 ^ e)) + den * 2 ^ e := by
    rw [Nat.add_mul, Nat.one_mul, Nat.mul_assoc]
  rcases roundUnits_cases pos he num with ⟨hpos, hnum, hround⟩ | hround | ⟨hnum, hround⟩
  · have hunits : 2 ^ (52 : Nat) * 2 ^ e ≤ s * 2 ^ e := Nat.mul_le_mul_right _ (hfull hpos)
    have hscaled : 2 ^ (52 : Nat) * (den * 2 ^ e) ≤ s * (den * 2 ^ e) :=
      Nat.mul_le_mul_right _ (hfull hpos)
    omega
  · rw [hround, Nat.mul_le_mul_right_iff hstep, roundHalfEven_le_iff hden]
  · have hunits : s * 2 ^ e < 2 ^ (53 : Nat) * 2 ^ e := Nat.mul_lt_mul_of_pos_right hs hstep
    have hscaled : (s + 1) * (den * 2 ^ e) ≤ 2 ^ (53 : Nat) * (den * 2 ^ e) :=
      Nat.mul_le_mul_right _ hs
    rw [Nat.add_mul, Nat.one_mul] at hscaled
    omega

/-- Up to half a step below a magnitude that is not the least of its step, quotients are rounded to
less. -/
theorem roundUnits_lt_mul_iff (num : Nat) (pos : 0 < den) (hs : s + 1 < 2 ^ (53 : Nat))
    (hfull : 0 < e → 2 ^ (52 : Nat) ≤ s) (he : 52 + e < limitBits) :
    roundUnits num den < (s + 1) * 2 ^ e ↔ 2 * num < (2 * s + 1) * (den * 2 ^ e) ∨
      s % 2 = 0 ∧ 2 * num = (2 * s + 1) * (den * 2 ^ e) := by
  rw [← roundUnits_le_mul_iff num pos (Nat.lt_of_succ_lt hs) hfull he]
  have hstep : 0 < 2 ^ e := Nat.two_pow_pos e
  have hnext : (s + 1) * 2 ^ e = s * 2 ^ e + 2 ^ e := by rw [Nat.add_mul, Nat.one_mul]
  -- Between a magnitude and the next one there is no rounded quotient.
  rcases roundUnits_cases pos he num with ⟨hpos, -, hround⟩ | hround | ⟨-, hround⟩
  · have hunits : 2 ^ (52 : Nat) * 2 ^ e ≤ s * 2 ^ e := Nat.mul_le_mul_right _ (hfull hpos)
    omega
  · rw [hround, Nat.mul_lt_mul_right hstep, Nat.mul_le_mul_right_iff hstep, Nat.lt_succ_iff]
  · have hunits : (s + 1) * 2 ^ e < 2 ^ (53 : Nat) * 2 ^ e := Nat.mul_lt_mul_of_pos_right hs hstep
    omega

variable (fits : Fits units)
include fits

theorem Fits.excess_lt : 52 + excess units < limitBits := by
  rcases Nat.eq_zero_or_pos (excess units) with he | he
  · rw [he]
    decide
  · have hlow := two_pow_le_of_excess_pos he
    exact (Nat.pow_lt_pow_iff_right (by decide)).mp (Nat.lt_of_le_of_lt hlow fits.2)

theorem roundUnits_le_iff_high (num : Nat) (pos : 0 < den) : roundUnits num den ≤ units ↔
    4 * num < (roundingInterval units).high * den ∨
      (roundingInterval units).closed = true ∧ 4 * num = (roundingInterval units).high * den := by
  have hiff := roundUnits_le_mul_iff num pos (significand_lt units) two_pow_le_significand
    fits.excess_lt
  have hunits := fits.eq_significand_mul
  simp only [roundingInterval, decide_eq_true_eq]
  rw [← hunits] at hiff
  generalize units / 2 ^ excess units = s at hunits hiff
  generalize excess units = e at hunits hiff
  have hhigh : (4 * units + 2 * 2 ^ e) * den = 2 * ((2 * s + 1) * (den * 2 ^ e)) := by
    rw [hunits]
    ring
  rw [hiff, hhigh]
  omega

theorem roundUnits_lt_iff_low (num : Nat) (pos : 0 < den) (hunits : 0 < units) :
    roundUnits num den < units ↔ 4 * num < (roundingInterval units).low * den ∨
      (roundingInterval units).closed = false ∧ 4 * num = (roundingInterval units).low * den := by
  have hs := significand_lt units
  have hfull : 0 < excess units → _ := two_pow_le_significand
  have he := fits.excess_lt
  have heq := fits.eq_significand_mul
  simp only [roundingInterval, decide_eq_false_iff_not]
  generalize units / 2 ^ excess units = s at hs hfull heq
  generalize excess units = e at hfull he heq
  have hstep : 0 < 2 ^ e := Nat.two_pow_pos e
  by_cases hleast : s = 2 ^ (52 : Nat) ∧ 1 < 2 ^ e
  · -- The lower end of a binade: the step below is half the step above.
    have hone := hleast.2
    obtain ⟨k, rfl⟩ : ∃ k, e = k + 1 := by
      cases e with
      | zero => exact absurd hone (Nat.lt_irrefl 1)
      | succ k => exact ⟨k, rfl⟩
    have hpow : units = 2 ^ (53 + k) := by
      rw [heq, hleast.1, ← Nat.pow_add]
      congr 1
      omega
    have hlow : (4 * units - 2 ^ (k + 1)) * den = 2 * ((2 ^ (54 : Nat) - 1) * (den * 2 ^ k)) := by
      have hsub : 4 * units - 2 ^ (k + 1) = 2 * ((2 ^ (54 : Nat) - 1) * 2 ^ k) := by
        rw [hleast.1, Nat.pow_succ] at heq
        rw [Nat.pow_succ]
        omega
      rw [hsub]
      ring
    have hiff : roundUnits num den < 2 ^ (53 + k) ↔ _ := roundUnits_lt_iff pos (by omega)
    rw [← hpow] at hiff
    have heven : s % 2 = 0 := by rw [hleast.1]
    rw [if_pos hleast, hlow, hiff]
    generalize (2 ^ (54 : Nat) - 1) * (den * 2 ^ k) = middle
    omega
  · have hpos : 0 < s := Nat.pos_of_mul_pos_right (heq ▸ hunits)
    obtain ⟨t, rfl⟩ : ∃ t, s = t + 1 := ⟨s - 1, by omega⟩
    have hfull' : 0 < e → 2 ^ (52 : Nat) ≤ t := by
      intro hpos
      have hone : 1 < 2 ^ e := Nat.one_lt_two_pow_iff.mpr (by omega)
      have hge := hfull hpos
      omega
    have hlow : (4 * units - 2 * 2 ^ e) * den = 2 * ((2 * t + 1) * (den * 2 ^ e)) := by
      have hsub : 4 * units - 2 * 2 ^ e = 2 * ((2 * t + 1) * 2 ^ e) := by
        rw [heq, Nat.add_mul, Nat.add_mul, Nat.mul_assoc]
        omega
      rw [hsub]
      ring
    have hiff := roundUnits_lt_mul_iff num pos hs hfull' he
    rw [← heq] at hiff
    rw [if_neg hleast, hlow, hiff]
    omega

omit fits

/-! ### Its points -/

/-- The points of a rounding interval. -/
def RoundingInterval.points (i : RoundingInterval) : Set ℚ :=
  if i.closed then Set.Icc i.low i.high else Set.Ioo i.low i.high

theorem RoundingInterval.ordConnected_points (i : RoundingInterval) : i.points.OrdConnected := by
  unfold points
  split
  · exact Set.ordConnected_Icc
  · exact Set.ordConnected_Ioo

/-- The quotients of units that round to a magnitude are the points of its interval. -/
theorem roundUnits_eq_iff (fits : Fits units) (hunits : 0 < units) (pos : 0 < den) :
    roundUnits num den = units ↔ (4 * (num / den : ℚ)) ∈ (roundingInterval units).points := by
  have hle := roundUnits_le_iff_high fits num pos
  have hlt := roundUnits_lt_iff_low fits num pos hunits
  have hden : (0 : ℚ) < den := by exact_mod_cast pos
  unfold RoundingInterval.points
  generalize roundingInterval units = i at hle hlt
  rw [← mul_div_assoc]
  split
  · next hclosed =>
    rw [Set.mem_Icc, le_div_iff₀ hden, div_le_iff₀ hden]
    norm_cast
    rw [hclosed] at hle hlt
    simp only [true_and, Bool.true_eq_false, false_and, or_false] at hle hlt
    omega
  · next hopen =>
    rw [Set.mem_Ioo, lt_div_iff₀ hden, div_lt_iff₀ hden]
    norm_cast
    rw [Bool.eq_false_iff.mpr hopen] at hle hlt
    simp only [true_and, Bool.false_eq_true, false_and, or_false] at hle hlt
    omega

end Binary64
end MetricFrames
