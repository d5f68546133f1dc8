import MetricFrames.Proofs.Binary64.Exact
import MetricFrames.Series.BucketBound
import Mathlib

/-!
# Bounds of linear layouts

The bound of a bucket of a linear layout is put together from an offset and a width that have lost
their fractions already. What is lost grows with the number of the bucket. The bound is the exact
one without its fraction exactly if the lost fractions make up no whole; and this is so for all
buckets exactly if the width is whole, and the offset is whole or has not the other sign
(`bound_linear_exact_iff`).
-/

namespace MetricFrames

def IsWhole (q : ℚ) : Prop := ∃ k : Int, q = k

/-- The exact bound of a bucket. -/
def exactBound (offset width : ℚ) (n : Int) : ℚ := offset + width * (n - 1)

/-- The bound of a bucket that is put together from integers. -/
def cutBound (offset width : ℚ) (n : Int) : Int := towardZero offset + towardZero width * (n - 1)

/-- What is missing from a bound that is put together from integers. -/
def lostBound (offset width : ℚ) (n : Int) : ℚ :=
  exactBound offset width n - cutBound offset width n

section

variable {offset width : ℚ} {n : Int}

theorem isWhole_iff {q : ℚ} : IsWhole q ↔ q - towardZero q = 0 := by
  constructor
  · rintro ⟨k, rfl⟩
    have hlost := abs_lt.mp (abs_sub_towardZero_lt k)
    have hlow : ((-1 : Int) : ℚ) < ((k - towardZero k : Int) : ℚ) := by
      push_cast
      exact hlost.1
    have hhigh : ((k - towardZero k : Int) : ℚ) < ((1 : Int) : ℚ) := by
      push_cast
      exact hlost.2
    have hzero : k - towardZero k = 0 := by
      have hlow' := Int.cast_lt.mp hlow
      have hhigh' := Int.cast_lt.mp hhigh
      omega
    exact_mod_cast hzero
  · intro h
    exact ⟨towardZero q, by linarith⟩

theorem lostBound_eq (offset width : ℚ) (n : Int) : lostBound offset width n =
    (offset - towardZero offset) + (width - towardZero width) * (n - 1) := by
  unfold lostBound exactBound cutBound
  push_cast
  ring

theorem abs_lostBound_lt (hn : 1 ≤ n) : |lostBound offset width n| < n := by
  have hcast : (1 : ℚ) ≤ n := by exact_mod_cast hn
  have hoffset := abs_sub_towardZero_lt offset
  have hwidth : |(width - towardZero width) * (n - 1)| ≤ n - 1 := by
    have hnonneg : (0 : ℚ) ≤ n - 1 := by linarith
    rw [abs_mul, abs_of_nonneg hnonneg]
    exact mul_le_of_le_one_left hnonneg (le_of_lt (abs_sub_towardZero_lt width))
  have hsum := abs_add_le (offset - towardZero offset) ((width - towardZero width) * (n - 1))
  rw [lostBound_eq]
  linarith

/-- The lost fractions make up no whole. -/
theorem towardZero_exactBound_iff :
    towardZero (exactBound offset width n) = cutBound offset width n ↔
    0 ≤ cutBound offset width n ∧ 0 ≤ lostBound offset width n ∧ lostBound offset width n < 1 ∨
    cutBound offset width n ≤ 0 ∧ -1 < lostBound offset width n ∧ lostBound offset width n ≤ 0 := by
  rw [towardZero_eq_iff]
  unfold lostBound
  constructor
  · rintro (⟨hcut, hlow, hhigh⟩ | ⟨hcut, hlow, hhigh⟩)
    · exact .inl ⟨hcut, by linarith, by linarith⟩
    · exact .inr ⟨hcut, by linarith, by linarith⟩
  · rintro (⟨hcut, hlow, hhigh⟩ | ⟨hcut, hlow, hhigh⟩)
    · exact .inl ⟨hcut, by linarith, by linarith⟩
    · exact .inr ⟨hcut, by linarith, by linarith⟩

theorem exactBound_neg : exactBound (-offset) (-width) n = -exactBound offset width n := by
  unfold exactBound
  ring

theorem cutBound_neg : cutBound (-offset) (-width) n = -cutBound offset width n := by
  unfold cutBound
  rw [towardZero_neg, towardZero_neg]
  ring

/-- All buckets have their exact bound, less its fraction. -/
def HasExactBounds (offset width : ℚ) : Prop :=
  ∀ n : Int, 1 ≤ n → towardZero (exactBound offset width n) = cutBound offset width n

theorem HasExactBounds.neg (h : HasExactBounds offset width) :
    HasExactBounds (-offset) (-width) := by
  intro n hn
  rw [exactBound_neg, cutBound_neg, towardZero_neg, h n hn]

/-- A width with a fraction loses a whole in the end. -/
theorem HasExactBounds.isWhole_width (h : HasExactBounds offset width) : IsWhole width := by
  by_contra hwidth
  have hlost : 0 < |width - towardZero width| :=
    abs_pos.mpr fun hzero => hwidth (isWhole_iff.mpr hzero)
  obtain ⟨m, hm⟩ := exists_nat_gt (2 / |width - towardZero width|)
  have hmany : 2 < m * |width - towardZero width| := (div_lt_iff₀ hlost).mp hm
  have hbound : |lostBound offset width (m + 1)| < 1 := by
    rw [abs_lt]
    rcases towardZero_exactBound_iff.mp (h (m + 1) (by omega)) with ⟨-, hlow, hhigh⟩ |
      ⟨-, hlow, hhigh⟩
    · exact ⟨by linarith, hhigh⟩
    · exact ⟨hlow, by linarith⟩
  have hterm : |(width - towardZero width) * m| = m * |width - towardZero width| := by
    rw [abs_mul, Nat.abs_cast, mul_comm]
  have htriangle : |(width - towardZero width) * m| ≤
      |lostBound offset width (m + 1)| + |offset - towardZero offset| := by
    have hsplit : (width - towardZero width) * m =
        lostBound offset width (m + 1) - (offset - towardZero offset) := by
      rw [lostBound_eq]
      push_cast
      ring
    rw [hsplit]
    exact abs_sub _ _
  have hoffset := abs_sub_towardZero_lt offset
  linarith

/-- A positive offset with a fraction is lost when a negative width has led below zero. -/
theorem HasExactBounds.isWhole_offset (h : HasExactBounds offset width) (hoffset : 0 < offset)
    (hwidth : width < 0) : IsWhole offset := by
  have hcut := towardZero_nonneg (le_of_lt hoffset)
  have hwhole := isWhole_iff.mp h.isWhole_width
  have hstep : towardZero width ≤ -1 := by
    have hneg : (towardZero width : ℚ) < 0 := by linarith
    have hneg' : towardZero width < 0 := by exact_mod_cast hneg
    omega
  have hbelow : cutBound offset width (towardZero offset + 2) < 0 := by
    unfold cutBound
    nlinarith
  have hlost := lostBound_eq offset width (towardZero offset + 2)
  rw [hwhole, zero_mul, add_zero] at hlost
  rw [isWhole_iff]
  rcases towardZero_exactBound_iff.mp (h (towardZero offset + 2) (by omega)) with ⟨hnonneg, -, -⟩ |
    ⟨-, -, hnonpos⟩
  · omega
  · linarith

theorem lostBound_of_isWhole (hwidth : IsWhole width) (n : Int) :
    lostBound offset width n = offset - towardZero offset := by
  rw [lostBound_eq, isWhole_iff.mp hwidth, zero_mul, add_zero]

theorem HasExactBounds.of_isWhole (hoffset : IsWhole offset) (hwidth : IsWhole width) :
    HasExactBounds offset width := by
  intro n _
  rw [towardZero_exactBound_iff, lostBound_of_isWhole hwidth, isWhole_iff.mp hoffset]
  rcases le_total 0 (cutBound offset width n) with hsign | hsign
  · exact .inl ⟨hsign, le_refl 0, zero_lt_one⟩
  · exact .inr ⟨hsign, neg_one_lt_zero, le_refl 0⟩

theorem HasExactBounds.of_nonneg (hwidth : IsWhole width) (hoffset : 0 ≤ offset)
    (hnonneg : 0 ≤ width) : HasExactBounds offset width := by
  intro n hn
  have hcut : 0 ≤ cutBound offset width n := by
    have hstart := (towardZero_nonneg hoffset).1
    have hstep := (towardZero_nonneg hnonneg).1
    have hsteps : 0 ≤ towardZero width * (n - 1) := Int.mul_nonneg hstep (by omega)
    unfold cutBound
    omega
  have hless := abs_lt.mp (abs_sub_towardZero_lt offset)
  have hlow := (towardZero_nonneg hoffset).2
  rw [towardZero_exactBound_iff, lostBound_of_isWhole hwidth]
  exact .inl ⟨hcut, by linarith, hless.2⟩

theorem hasExactBounds_iff :
    HasExactBounds offset width ↔ IsWhole width ∧ (IsWhole offset ∨ 0 ≤ offset * width) := by
  constructor
  · intro h
    refine ⟨h.isWhole_width, ?_⟩
    by_contra hnot
    obtain ⟨hoffset, hsigns⟩ := not_or.mp hnot
    rcases mul_neg_iff.mp (not_le.mp hsigns) with ⟨hpos, hneg⟩ | ⟨hneg, hpos⟩
    · exact hoffset (h.isWhole_offset hpos hneg)
    · obtain ⟨k, hk⟩ := h.neg.isWhole_offset (by linarith) (by linarith)
      exact hoffset ⟨-k, by push_cast; linarith⟩
  · rintro ⟨hwidth, hoffset | hsigns⟩
    · exact .of_isWhole hoffset hwidth
    · rcases mul_nonneg_iff.mp hsigns with ⟨hoffset, hnonneg⟩ | ⟨hoffset, hnonpos⟩
      · exact .of_nonneg hwidth hoffset hnonneg
      · obtain ⟨k, hk⟩ := hwidth
        have hneg : HasExactBounds (-offset) (-width) :=
          .of_nonneg ⟨-k, by push_cast; linarith⟩ (by linarith) (by linarith)
        have hback := hneg.neg
        rwa [neg_neg, neg_neg] at hback

end

/-! ### Bounds as texts -/

variable {options : BucketOptions} {b : LinearBuckets} {offset width : ℚ}

theorem BucketOptions.bound_linear (hb : options.linear = some b)
    (hoffset : b.offset.toRat? = some offset) (hwidth : b.width.toRat? = some width) {n : Int}
    (hn : 1 ≤ n) : options.bound n = .ok (toString (cutBound offset width n)) := by
  have hne : n ≠ 0 := by omega
  rw [bound, if_neg hne, hb]
  show b.bound n = _
  rw [LinearBuckets.bound, Binary64.toInteger_of_toRat? hoffset,
    Binary64.toInteger_of_toRat? hwidth]
  rfl

theorem toString_int_inj {i k : Int} : toString i = toString k ↔ i = k := by
  rw [Int.toString_eq_repr, Int.toString_eq_repr, Int.repr_inj]

/-- The bound of each bucket of a linear layout is put together from the integer parts of the offset
and the width. It misses the exact bound by less than the number of the bucket, and it is the exact
bound without its fraction exactly if the lost fractions make up no whole. This is so for all
buckets exactly if the width is whole, and the offset is whole or of the same sign. -/
theorem BucketOptions.bound_linear_exact_iff (hb : options.linear = some b)
    (hoffset : b.offset.toRat? = some offset) (hwidth : b.width.toRat? = some width) :
    (∀ n : Int, 1 ≤ n →
      options.bound n = .ok (toString (cutBound offset width n)) ∧
      |lostBound offset width n| < n ∧
      (options.bound n = .ok (toString (towardZero (exactBound offset width n))) ↔
        0 ≤ cutBound offset width n ∧ 0 ≤ lostBound offset width n ∧
            lostBound offset width n < 1 ∨
          cutBound offset width n ≤ 0 ∧ -1 < lostBound offset width n ∧
            lostBound offset width n ≤ 0)) ∧
    ((∀ n : Int, 1 ≤ n →
        options.bound n = .ok (toString (towardZero (exactBound offset width n)))) ↔
      IsWhole width ∧ (IsWhole offset ∨ 0 ≤ offset * width)) := by
  have hbound : ∀ n : Int, 1 ≤ n →
      options.bound n = .ok (toString (cutBound offset width n)) :=
    fun n hn => bound_linear hb hoffset hwidth hn
  have hexact : ∀ n : Int, 1 ≤ n →
      (options.bound n = .ok (toString (towardZero (exactBound offset width n))) ↔
        towardZero (exactBound offset width n) = cutBound offset width n) := by
    intro n hn
    rw [hbound n hn, Except.ok.injEq, toString_int_inj, eq_comm]
  constructor
  · intro n hn
    exact ⟨hbound n hn, abs_lostBound_lt hn, (hexact n hn).trans towardZero_exactBound_iff⟩
  · rw [← hasExactBounds_iff]
    exact forall₂_congr hexact

/-- Steps of five from ten on. -/
def LinearBuckets.fives : LinearBuckets where
  offset := .ofInt 10
  width := .ofInt 5

/-- The third bucket in steps of five from ten on starts at twenty. -/
theorem BucketOptions.bound_linear_exact_iff_fives :
    bound { linear := some .fives } 3 = .ok (toString (towardZero (exactBound 10 5 3))) ∧
    exactBound 10 5 3 = 20 := by
  have hten := Binary64.toRat?_ofInt_natCast (n := 10) (by decide)
  have hfive := Binary64.toRat?_ofInt_natCast (n := 5) (by decide)
  rw [Nat.cast_ofNat, Nat.cast_ofNat] at hten hfive
  have hoffset : LinearBuckets.fives.offset.toRat? = some 10 := by
    simp only [LinearBuckets.fives]
    exact hten
  have hwidth : LinearBuckets.fives.width.toRat? = some 5 := by
    simp only [LinearBuckets.fives]
    exact hfive
  have hlinear : linear { linear := some .fives } = some .fives := rfl
  obtain ⟨-, hall⟩ := bound_linear_exact_iff hlinear hoffset hwidth
  refine ⟨hall.mpr ⟨⟨5, by norm_num⟩, .inl ⟨10, by norm_num⟩⟩ 3 (by decide), ?_⟩
  norm_num [exactBound]

/-- Steps of a half from a half on. -/
def LinearBuckets.halves : LinearBuckets where
  offset := .ofRatio false 1 2
  width := .ofRatio false 1 2

/-- The second bucket in steps of a half from a half on starts at one, but its bound reads zero. -/
theorem BucketOptions.bound_linear_halves :
    LinearBuckets.halves.offset.toRat? = some (1 / 2) ∧
    LinearBuckets.halves.width.toRat? = some (1 / 2) ∧
    bound { linear := some .halves } 2 = .ok "0" ∧
    toString (towardZero (exactBound (1 / 2) (1 / 2) 2)) = "1" := by
  have hunits : (Binary64.ofRatio false 1 2).units? = some (2 ^ (1073 : Nat)) := by decide +kernel
  have hhalf : (Binary64.ofRatio false 1 2).toRat? = some (1 / 2) := by
    rw [Binary64.toRat?, hunits, Option.map_some, Option.some.injEq, Binary64.one,
      Binary64.unitBits]
    have hpow : (2 : ℚ) ^ 1074 = 2 ^ 1073 * 2 := pow_succ 2 1073
    push_cast
    rw [hpow, ← div_div, div_self (pow_ne_zero 1073 two_ne_zero)]
  have hoffset : LinearBuckets.halves.offset.toRat? = some (1 / 2) := by
    simp only [LinearBuckets.halves]
    exact hhalf
  have hwidth : LinearBuckets.halves.width.toRat? = some (1 / 2) := by
    simp only [LinearBuckets.halves]
    exact hhalf
  refine ⟨hoffset, hwidth, by decide +kernel, ?_⟩
  have hone : towardZero (exactBound (1 / 2) (1 / 2) 2) = 1 := by
    rw [towardZero_eq_iff]
    left
    norm_num [exactBound]
  rw [hone]
  rfl

end MetricFrames
