import MetricFrames.Proofs.Binary64.Rounding
import Mathlib.Data.Rat.Floor
import Mathlib.Tactic.Linarith

/-!
# Exact values

The value of a finite number as a rational one, and its integer part as an exact rule
(`toInteger_of_toRat?`): the fraction is dropped, so the part lies between zero and the number.
-/

namespace MetricFrames

/-- A number without its fraction, whatever its sign. -/
def towardZero (q : ℚ) : Int := if 0 ≤ q then ⌊q⌋ else ⌈q⌉

variable {q : ℚ} {k : Int}

theorem towardZero_eq_iff : towardZero q = k ↔
    0 ≤ k ∧ (k : ℚ) ≤ q ∧ q < k + 1 ∨ k ≤ 0 ∧ (k : ℚ) - 1 < q ∧ q ≤ k := by
  unfold towardZero
  constructor
  · intro h
    split at h
    · next hq =>
      have hk : 0 ≤ k := h ▸ Int.floor_nonneg.mpr hq
      exact .inl ⟨hk, Int.floor_eq_iff.mp h⟩
    · next hq =>
      have hk : k ≤ 0 := h ▸ Int.ceil_le.mpr (by simpa using le_of_not_ge hq)
      exact .inr ⟨hk, Int.ceil_eq_iff.mp h⟩
  · rintro (⟨hk, hlow, hhigh⟩ | ⟨hk, hlow, hhigh⟩)
    · have hcast : (0 : ℚ) ≤ k := Int.cast_nonneg hk
      rw [if_pos (hcast.trans hlow)]
      exact Int.floor_eq_iff.mpr ⟨hlow, hhigh⟩
    · have hcast : (k : ℚ) ≤ 0 := Int.cast_nonpos.mpr hk
      split
      · next hq =>
        have hzero : q = 0 := le_antisymm (hhigh.trans hcast) hq
        have hk' : k = 0 := by
          have : (k : ℚ) = 0 := le_antisymm hcast (hzero ▸ hhigh)
          exact_mod_cast this
        rw [hzero, hk', Int.floor_zero]
      · exact Int.ceil_eq_iff.mpr ⟨hlow, hhigh⟩

theorem towardZero_neg (q : ℚ) : towardZero (-q) = -towardZero q := by
  rw [towardZero_eq_iff]
  rcases towardZero_eq_iff.mp (rfl : towardZero q = towardZero q) with ⟨hk, hlow, hhigh⟩ |
    ⟨hk, hlow, hhigh⟩
  · exact .inr ⟨by omega, by push_cast; linarith, by push_cast; linarith⟩
  · exact .inl ⟨by omega, by push_cast; linarith, by push_cast; linarith⟩

theorem towardZero_natCast_div (num den : Nat) :
    towardZero ((num : ℚ) / den) = (num / den : Nat) := by
  have hq : (0 : ℚ) ≤ (num : ℚ) / den := by positivity
  rw [towardZero, if_pos hq, Rat.floor_natCast_div_natCast]
  rfl

theorem abs_sub_towardZero_lt (q : ℚ) : |q - towardZero q| < 1 := by
  rw [abs_lt]
  rcases towardZero_eq_iff.mp (rfl : towardZero q = towardZero q) with ⟨-, hlow, hhigh⟩ |
    ⟨-, hlow, hhigh⟩
  · exact ⟨by linarith, by linarith⟩
  · exact ⟨by linarith, by linarith⟩

theorem towardZero_nonneg (hq : 0 ≤ q) : 0 ≤ towardZero q ∧ (towardZero q : ℚ) ≤ q := by
  rw [towardZero, if_pos hq]
  exact ⟨Int.floor_nonneg.mpr hq, Int.floor_le q⟩

namespace Binary64

/-- The value of a finite number. -/
def toRat? (x : Binary64) : Option ℚ := x.units?.map fun units : Int => (units : ℚ) / one

theorem toRat?_ofInt_natCast {n : Nat} (h : n < 2 ^ (53 : Nat)) :
    (ofInt n).toRat? = some (n : ℚ) := by
  have hone : (one : ℚ) ≠ 0 := by exact_mod_cast one_pos.ne'
  rw [ofInt_natCast h, toRat?, units?, signed, if_neg Bool.false_ne_true, Option.map_some,
    Int.cast_natCast, Nat.cast_mul, mul_div_cancel_right₀ _ hone]

theorem toInteger_of_toRat? {x : Binary64} (h : x.toRat? = some q) :
    x.toInteger = .ok (towardZero q) := by
  cases x with
  | nan => cases h
  | infinite negative => cases h
  | finite negative units fits =>
    obtain rfl : (signed negative units : ℚ) / one = q := Option.some.inj h
    cases negative with
    | false =>
      have hpart := towardZero_natCast_div units one
      rw [toInteger]
      simp only [signed, Bool.false_eq_true, if_false, Int.cast_natCast]
      rw [hpart]
    | true =>
      have hpart := towardZero_natCast_div units one
      rw [toInteger]
      simp only [signed, if_true, Int.cast_neg, Int.cast_natCast, neg_div]
      rw [towardZero_neg, hpart]

end Binary64
end MetricFrames
