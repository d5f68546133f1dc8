import MetricFrames.Proofs.Binary64.Rounding

/-!
# Integer parts of quotients

A quotient of integers is rounded before its fraction is dropped. Rounding up adds less than the
2^53rd part of the quotient (`roundUnits_mul_lt`), so a dividend of at most 53 bits never reaches
the next integer: the integer part is that of the exact quotient (`toInteger_quotient`).
-/

namespace MetricFrames

-- Powers of naturals are those of the core library, whatever else is in scope.
attribute [local instance (high)] instPowNat

variable {num den : Nat}

/-- An integer overtakes the quotient that is rounded to it by a half at most. -/
theorem two_mul_roundHalfEven_le (pos : 0 < den) :
    2 * (roundHalfEven num den * den) ≤ 2 * num + den := by
  rcases Nat.eq_zero_or_pos (roundHalfEven num den) with hzero | hround
  · rw [hzero]
    omega
  · have hnot : ¬ roundHalfEven num den ≤ roundHalfEven num den - 1 := by omega
    rw [roundHalfEven_le_iff pos, not_or, Nat.not_lt] at hnot
    generalize roundHalfEven num den = q at hround hnot ⊢
    have hhalf : (2 * (q - 1) + 1) * den + den = 2 * (q * den) := by
      rw [← Nat.succ_mul, ← Nat.mul_assoc]
      congr 1
      omega
    omega

namespace Binary64

/-- In the normal range rounding up adds less than the 2^53rd part of the quotient. -/
theorem roundUnits_mul_lt (pos : 0 < den) (hnormal : 2 ^ (52 : Nat) * den ≤ num) :
    2 ^ (53 : Nat) * (roundUnits num den * den) < (2 ^ (53 : Nat) + 1) * num := by
  have hquot : 2 ^ (52 : Nat) ≤ num / den := (Nat.le_div_iff_mul_le pos).mpr hnormal
  have hleast : 2 ^ (52 + excess (num / den)) ≤ num / den := by
    rcases Nat.eq_zero_or_pos (excess (num / den)) with he | he
    · rwa [he]
    · exact two_pow_le_of_excess_pos he
  have hnum : 2 ^ (52 + excess (num / den)) * den ≤ num := (Nat.le_div_iff_mul_le pos).mp hleast
  unfold roundUnits
  dsimp only
  generalize excess (num / den) = e at hnum
  have hstep : 0 < den * 2 ^ e := Nat.mul_pos pos (Nat.two_pow_pos e)
  have hleast' : 2 ^ (52 : Nat) * (den * 2 ^ e) ≤ num := by
    rw [Nat.mul_comm den, ← Nat.mul_assoc, ← Nat.pow_add]
    exact hnum
  have hhalf : 2 * (roundHalfEven num (den * 2 ^ e) * (den * 2 ^ e)) ≤ _ :=
    two_mul_roundHalfEven_le hstep
  have hscaled : roundHalfEven num (den * 2 ^ e) * 2 ^ e * den =
      roundHalfEven num (den * 2 ^ e) * (den * 2 ^ e) := by
    rw [Nat.mul_assoc, Nat.mul_comm (2 ^ e)]
  rw [hscaled]
  generalize roundHalfEven num (den * 2 ^ e) = q at hhalf ⊢
  generalize den * 2 ^ e = step at hstep hleast' hhalf ⊢
  -- Half a step is less than that part of the quotient, but at the least significand; there
  -- rounding does not go up.
  rcases Nat.lt_or_ge (2 ^ (52 : Nat)) q with hq | hq
  · have hmul : (2 ^ (52 : Nat) + 1) * step ≤ q * step := Nat.mul_le_mul_right step hq
    omega
  · have hmul : q * step ≤ 2 ^ (52 : Nat) * step := Nat.mul_le_mul_right step hq
    omega

/-- A quotient whose dividend has at most 53 bits is not rounded up to the next integer. -/
theorem roundUnits_lt_next (pos : 0 < den) (hnum : num ≤ 2 ^ (53 : Nat)) :
    roundUnits (num * one) den < (num / den + 1) * one := by
  have hnext : num < (num / den + 1) * den := Nat.lt_mul_of_div_lt (Nat.lt_succ_self _) pos
  rcases Nat.lt_or_ge num den with hless | hge
  · have hzero : num / den = 0 := Nat.div_eq_of_lt hless
    obtain ⟨e, he⟩ : ∃ e, unitBits = 53 + e := ⟨1021, rfl⟩
    have hlimit : 53 + e ≤ limitBits := he ▸ show unitBits ≤ limitBits by decide
    have hunits : 2 * (num * 2 ^ (53 + e)) = 2 ^ (54 : Nat) * num * 2 ^ e := by
      rw [Nat.pow_add, Nat.mul_left_comm num, Nat.mul_assoc _ num]
      omega
    rw [hzero, Nat.zero_add, Nat.one_mul, one, he, roundUnits_lt_iff pos hlimit, hunits,
      ← Nat.mul_assoc _ den]
    refine Nat.mul_lt_mul_of_pos_right ?_ (Nat.two_pow_pos _)
    omega
  · have hunits : 2 ^ (52 : Nat) ≤ one := Nat.pow_le_pow_right (by decide) (by decide)
    have hnormal : 2 ^ (52 : Nat) * den ≤ num * one := by
      rw [Nat.mul_comm num]
      exact Nat.mul_le_mul hunits hge
    have hround := roundUnits_mul_lt pos hnormal
    by_contra hnot
    have hmul := Nat.mul_le_mul_right den (Nat.not_lt.mp hnot)
    have hall : 2 ^ (53 : Nat) * ((num / den + 1) * den) * one <
        (2 ^ (53 : Nat) + 1) * num * one := by
      calc 2 ^ (53 : Nat) * ((num / den + 1) * den) * one
          = 2 ^ (53 : Nat) * ((num / den + 1) * one * den) := by
            rw [Nat.mul_assoc, Nat.mul_right_comm]
        _ ≤ 2 ^ (53 : Nat) * (roundUnits (num * one) den * den) := Nat.mul_le_mul_left _ hmul
        _ < (2 ^ (53 : Nat) + 1) * (num * one) := hround
        _ = (2 ^ (53 : Nat) + 1) * num * one := (Nat.mul_assoc _ _ _).symm
    have hsmall := Nat.lt_of_mul_lt_mul_right hall
    generalize (num / den + 1) * den = next at hnext hsmall
    omega

theorem fits_mul_one_of_le (h : num ≤ 2 ^ (53 : Nat)) : Fits (num * one) := by
  rcases Nat.lt_or_eq_of_le h with hless | rfl
  · exact fits_mul_one hless
  · refine ⟨⟨1, 53 + unitBits, by decide, ?_⟩, ?_⟩
    · rw [one, ← Nat.pow_add, Nat.one_mul]
    · rw [one, ← Nat.pow_add]
      exact Nat.pow_lt_pow_right (by decide) (by decide)

/-- A dividend of at most 53 bits has the same integer part in the rounded quotient as in the exact
one. -/
theorem roundUnits_div_one (pos : 0 < den) (hnum : num ≤ 2 ^ (53 : Nat)) :
    roundUnits (num * one) den / one = num / den := by
  have hfits : Fits (num / den * one) :=
    fits_mul_one_of_le ((Nat.div_le_self num den).trans hnum)
  have hlow : num / den * one ≤ roundUnits (num * one) den := by
    refine le_roundUnits pos hfits ?_
    rw [Nat.mul_right_comm]
    exact Nat.mul_le_mul_right one (Nat.div_mul_le_self num den)
  have hhigh := roundUnits_lt_next pos hnum
  rw [Nat.add_mul, Nat.one_mul] at hhigh
  exact (Nat.div_eq_iff one_pos).mpr ⟨hlow, by omega⟩

theorem tdiv_eq_natAbs_div (i : Int) (den : Nat) :
    i.tdiv den = if i < 0 then -((i.natAbs / den : Nat) : Int) else (i.natAbs / den : Nat) := by
  obtain ⟨n, rfl | rfl⟩ := i.eq_nat_or_neg
  · rw [if_neg (by omega), Int.natAbs_natCast, Int.natCast_ediv]
    exact Int.tdiv_eq_ediv_of_nonneg (Int.natCast_nonneg n)
  · rw [Int.neg_tdiv, Int.tdiv_eq_ediv_of_nonneg (Int.natCast_nonneg n), Int.natAbs_neg,
      Int.natAbs_natCast, Int.natCast_ediv]
    split
    · rfl
    · have hzero : n = 0 := by omega
      subst hzero
      simp

/-- The quotient by a positive integer loses its fraction as the exact one does, if the dividend has
at most 53 bits. -/
theorem toInteger_quotient {i : Int} (pos : 0 < den) (hi : i.natAbs ≤ 2 ^ (53 : Nat)) :
    ∃ x, quotient i den = .ok x ∧ x.toInteger = .ok (i.tdiv den) := by
  have hround := roundUnits_div_one pos hi
  have hfits := fits_mul_one_of_le hi
  have hsmall : roundUnits (i.natAbs * one) den < limit := by
    have hle : roundUnits (i.natAbs * one) den ≤ i.natAbs * one :=
      roundUnits_le pos hfits (Nat.le_mul_of_pos_right _ pos)
    exact Nat.lt_of_le_of_lt hle hfits.2
  refine ⟨.finite (i < 0) (roundUnits (i.natAbs * one) den) (fits_roundUnits pos hsmall), ?_, ?_⟩
  · rw [quotient, ofRatio, ofUnits, dif_pos pos, dif_pos hsmall]
    rfl
  · simp only [toInteger, hround, tdiv_eq_natAbs_div, decide_eq_true_eq]

end Binary64
end MetricFrames
