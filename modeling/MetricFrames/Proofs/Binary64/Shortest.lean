import MetricFrames.Proofs.Binary64.Numerals

/-!
# The decimal with the fewest digits

The search goes over grids of decimals from coarse to fine, and on each grid one of the two
neighbours of a number rounds to it if any point does (`exists_neighbour?`). So it finds a decimal
on the coarsest grid that has one (`isCoarsest_shortest`), and such a decimal has no more digits
than any other that rounds to the number (`IsCoarsest.length_le`).
-/

namespace MetricFrames

-- Powers of naturals are those of the core library, whatever else is in scope.
attribute [local instance (high)] instPowNat

theorem Decimal.stripped_eq_self {d : Decimal} (h : d.digits % 10 ≠ 0) : d.stripped = d := by
  rw [stripped, if_neg (by omega)]

theorem exists_of_findSome?_range {α : Type} {f : Nat → Option α} {n : Nat} {b : α}
    (h : (List.range n).findSome? f = some b) :
    ∃ i, f i = some b ∧ ∀ j < i, f j = none := by
  induction n with
  | zero => cases h
  | succ n ih =>
    rw [List.range_succ, List.findSome?_append] at h
    cases hbefore : (List.range n).findSome? f with
    | some c =>
      rw [hbefore] at h
      exact ih (hbefore.trans h)
    | none =>
      rw [hbefore] at h
      have hnone := List.findSome?_eq_none_iff.mp hbefore
      refine ⟨n, by simpa using h, ?_⟩
      intro j hj
      exact hnone j (List.mem_range.mpr hj)

namespace Binary64

variable {units m : Nat} {e : ℤ} {d : Decimal}

/-! ### The leading digit -/

theorem leading_of_scaled {num den k : Nat} (pos : 0 < den) (h : den ≤ num * 10 ^ k) :
    (10 : ℚ) ^ ((Nat.toDigits 10 (num * 10 ^ k / den)).length - 1 - k : ℤ) ≤ num / den ∧
      (num / den : ℚ) < 10 ^ ((Nat.toDigits 10 (num * 10 ^ k / den)).length - k : ℤ) := by
  have hden : (0 : ℚ) < den := by exact_mod_cast pos
  have hten : (0 : ℚ) < (10 ^ k : Nat) := by exact_mod_cast Nat.pow_pos (by decide)
  have hle := Nat.div_mul_le_self (num * 10 ^ k) den
  have hlt := Nat.lt_mul_div_succ (num * 10 ^ k) pos
  have hquot := Nat.div_pos h pos
  have hlow := ten_pow_length_le hquot.ne'
  have hhigh := lt_ten_pow_length (num * 10 ^ k / den)
  have hpos : 0 < (Nat.toDigits 10 (num * 10 ^ k / den)).length := Nat.length_toDigits_pos
  generalize num * 10 ^ k / den = scaled at hle hlt hlow hhigh hpos
  generalize (Nat.toDigits 10 scaled).length = count at hlow hhigh hpos
  have hshift : ∀ i : Nat, (10 : ℚ) ^ (i - k : ℤ) * (10 ^ k : Nat) = (10 ^ i : Nat) := by
    intro i
    rw [← ten_zpow_natCast, ← ten_zpow_natCast, ← ten_zpow_add, sub_add_cancel]
  constructor
  · have hexp : (count - 1 - k : ℤ) = (count - 1 : Nat) - k := by omega
    have hnum : 10 ^ (count - 1) * den ≤ num * 10 ^ k := (Nat.mul_le_mul_right _ hlow).trans hle
    have hnum' : ((10 ^ (count - 1) : Nat) * den : ℚ) ≤ num * (10 ^ k : Nat) := by
      exact_mod_cast hnum
    rw [le_div_iff₀ hden]
    refine le_of_mul_le_mul_right ?_ hten
    rwa [mul_right_comm, hexp, hshift]
  · have hnum : num * 10 ^ k < 10 ^ count * den := by
      refine hlt.trans_le ?_
      rw [Nat.mul_comm]
      exact Nat.mul_le_mul_right _ hhigh
    have hnum' : (num * (10 ^ k : Nat) : ℚ) < (10 ^ count : Nat) * den := by exact_mod_cast hnum
    rw [div_lt_iff₀ hden]
    refine lt_of_mul_lt_mul_right ?_ hten.le
    rwa [mul_right_comm (10 ^ _ : ℚ), hshift]

theorem leadingPower_spec (hunits : 0 < units) :
    (10 : ℚ) ^ leadingPower units ≤ units / one ∧
      (units / one : ℚ) < 10 ^ (leadingPower units + 1) := by
  have hscale : one ≤ 10 ^ (330 : Nat) := by decide +kernel
  have hle : one ≤ units * 10 ^ (330 : Nat) :=
    Nat.le_trans hscale (Nat.le_mul_of_pos_left _ hunits)
  obtain ⟨hlow, hhigh⟩ := leading_of_scaled one_pos hle
  unfold leadingPower
  refine ⟨le_of_eq_of_le ?_ hlow, lt_of_lt_of_eq hhigh ?_⟩
  · congr 1
    omega
  · congr 1
    omega

/-! ### One grid -/

theorem holds_iff : (roundingInterval units).holds m e = true ↔
    (m * 10 ^ e : ℚ) ∈ roundsTo units := by
  have hscale : (0 : ℚ) < (10 ^ (-e).toNat : Nat) := by
    exact_mod_cast Nat.pow_pos (by decide)
  have hpoint : (4 * (m * 10 ^ e * one) : ℚ) =
      (m * 10 ^ e.toNat * (4 * one) : Nat) / (10 ^ (-e).toNat : Nat) := by
    rw [ten_zpow_eq_div]
    push_cast
    ring
  rw [roundsTo, Set.mem_ofPred_eq, hpoint, RoundingInterval.holds, RoundingInterval.points]
  split
  · rw [Set.mem_Icc, le_div_iff₀ hscale, div_le_iff₀ hscale, Bool.and_eq_true, decide_eq_true_eq,
      decide_eq_true_eq]
    norm_cast
  · rw [Set.mem_Ioo, lt_div_iff₀ hscale, div_lt_iff₀ hscale, Bool.and_eq_true, decide_eq_true_eq,
      decide_eq_true_eq]
    norm_cast

/-- The number of whole grid steps in a magnitude. -/
def stepsBelow (units : Nat) (e : ℤ) : Nat :=
  4 * units * 10 ^ (-e).toNat / (10 ^ e.toNat * (4 * one))

theorem stepsBelow_le (units : Nat) (e : ℤ) :
    (stepsBelow units e * 10 ^ e : ℚ) ≤ units / one ∧
      (units / one : ℚ) < (stepsBelow units e + 1 : Nat) * 10 ^ e := by
  have hup : 0 < 10 ^ e.toNat := Nat.pow_pos (by decide)
  have hden : 0 < 10 ^ e.toNat * (4 * one) := Nat.mul_pos hup (Nat.mul_pos (by decide) one_pos)
  have hle : stepsBelow units e * (10 ^ e.toNat * (4 * one)) ≤ 4 * units * 10 ^ (-e).toNat :=
    Nat.div_mul_le_self _ _
  have hlt : 4 * units * 10 ^ (-e).toNat < 10 ^ e.toNat * (4 * one) * (stepsBelow units e + 1) :=
    Nat.lt_mul_div_succ _ hden
  have hscale : (0 : ℚ) < (10 ^ (-e).toNat : Nat) := by exact_mod_cast Nat.pow_pos (by decide)
  have hle' : (stepsBelow units e * ((10 ^ e.toNat : Nat) * (4 * one)) : ℚ) ≤
      4 * units * (10 ^ (-e).toNat : Nat) := by exact_mod_cast hle
  have hlt' : (4 * units * (10 ^ (-e).toNat : Nat) : ℚ) <
      (10 ^ e.toNat : Nat) * (4 * one) * (stepsBelow units e + 1 : Nat) := by exact_mod_cast hlt
  rw [ten_zpow_eq_div]
  constructor
  · rw [← mul_div_assoc, div_le_div_iff₀ hscale one_cast_pos]
    linarith
  · rw [← mul_div_assoc, div_lt_div_iff₀ one_cast_pos hscale]
    linarith

/-- The two candidates on a grid are the neighbours of the magnitude, the better one first. -/
theorem neighbour?_eq (units : Nat) (e : ℤ) : ∃ first second : Nat,
    (first = stepsBelow units e ∧ second = stepsBelow units e + 1 ∨
      first = stepsBelow units e + 1 ∧ second = stepsBelow units e) ∧
    (roundingInterval units).neighbour? e =
      if (roundingInterval units).holds first e && first ≠ 0 then some ⟨first, e⟩
      else if (roundingInterval units).holds second e && second ≠ 0 then some ⟨second, e⟩
      else none := by
  obtain ⟨nearest, hnearest⟩ : ∃ nearest, nearest =
      roundHalfEven (4 * units * 10 ^ (-e).toNat) (10 ^ e.toNat * (4 * one)) := ⟨_, rfl⟩
  have hlow : stepsBelow units e ≤ nearest := hnearest ▸ div_le_roundHalfEven _ _
  have hhigh : nearest ≤ stepsBelow units e + 1 := hnearest ▸ roundHalfEven_le_succ _ _
  refine ⟨nearest, if nearest = stepsBelow units e then nearest + 1 else stepsBelow units e, ?_, ?_⟩
  · split <;> omega
  · rw [hnearest]
    rfl

theorem of_neighbour? (h : (roundingInterval units).neighbour? e = some d) :
    d.exponent = e ∧ d.digits ≠ 0 ∧ d.exact ∈ roundsTo units := by
  have hfound : ∀ k : Nat, ((roundingInterval units).holds k e && decide (k ≠ 0)) = true →
      some (Decimal.mk k e) = some d →
        d.exponent = e ∧ d.digits ≠ 0 ∧ d.exact ∈ roundsTo units := by
    intro k hk hd
    obtain rfl := Option.some.inj hd
    rw [Bool.and_eq_true, decide_eq_true_eq, holds_iff] at hk
    exact ⟨rfl, hk.2, hk.1⟩
  obtain ⟨first, second, -, heq⟩ := neighbour?_eq units e
  rw [heq] at h
  split at h
  · next hk => exact hfound first hk h
  · split at h
    · next hk => exact hfound second hk h
    · cases h

/-- If any point of a grid rounds to a magnitude, one of the two neighbours does. -/
theorem exists_neighbour? (fits : Fits units) (hunits : 0 < units) (hm : m ≠ 0)
    (h : (m * 10 ^ e : ℚ) ∈ roundsTo units) :
    ∃ d, (roundingInterval units).neighbour? e = some d := by
  have hself := self_mem_roundsTo fits hunits
  obtain ⟨hlow, hhigh⟩ := stepsBelow_le units e
  have hpow := ten_zpow_pos e
  obtain ⟨k, hk, hholds⟩ : ∃ k, (k = stepsBelow units e ∨ k = stepsBelow units e + 1) ∧
      ((roundingInterval units).holds k e && decide (k ≠ 0)) = true := by
    simp only [Bool.and_eq_true, decide_eq_true_eq, holds_iff]
    rcases Nat.lt_or_ge (stepsBelow units e) m with hbeyond | hwithin
    · have hle : ((stepsBelow units e + 1 : Nat) : ℚ) ≤ m := by exact_mod_cast hbeyond
      refine ⟨stepsBelow units e + 1, .inr rfl, ?_, Nat.succ_ne_zero _⟩
      exact mem_roundsTo_of_between hself h hhigh.le (mul_le_mul_of_nonneg_right hle hpow.le)
    · have hle : (m : ℚ) ≤ stepsBelow units e := by exact_mod_cast hwithin
      refine ⟨stepsBelow units e, .inl rfl, ?_, by omega⟩
      exact mem_roundsTo_of_between h hself (mul_le_mul_of_nonneg_right hle hpow.le) hlow
  obtain ⟨first, second, hpair, heq⟩ := neighbour?_eq units e
  rw [heq]
  split
  · exact ⟨_, rfl⟩
  · next hfirst =>
    have hsecond : k = second := by
      have hne : k ≠ first := by
        rintro rfl
        exact hfirst hholds
      omega
    rw [← hsecond, if_pos hholds]
    exact ⟨_, rfl⟩

/-! ### The coarsest grid -/

/-- A decimal that rounds to a magnitude, on the coarsest grid with a point other than zero that
does. -/
structure IsCoarsest (units : Nat) (d : Decimal) : Prop where
  ne_zero : d.digits ≠ 0
  mem : d.exact ∈ roundsTo units
  le_exponent : ∀ (m : Nat) (e : ℤ), m ≠ 0 → (m * 10 ^ e : ℚ) ∈ roundsTo units → e ≤ d.exponent

/-- On the coarsest grid no digits end in zero. -/
theorem IsCoarsest.mod_ne_zero (h : IsCoarsest units d) : d.digits % 10 ≠ 0 := by
  intro hmod
  have hdigits : d.digits = d.digits / 10 * 10 := by omega
  have hcoarser : ((d.digits / 10 : Nat) * 10 ^ (d.exponent + 1) : ℚ) = d.exact := by
    have hcast : (d.digits : ℚ) = (d.digits / 10 : Nat) * 10 := by exact_mod_cast hdigits
    rw [Decimal.exact, hcast, ten_zpow_add, zpow_one]
    ring
  have hne := h.ne_zero
  have hle := h.le_exponent (d.digits / 10) (d.exponent + 1) (by omega) (hcoarser ▸ h.mem)
  omega

/-- No decimal with fewer digits rounds to the magnitude. -/
theorem IsCoarsest.length_le (h : IsCoarsest units d) (hm : m ≠ 0)
    (hmem : (m * 10 ^ e : ℚ) ∈ roundsTo units) : d.length ≤ (Nat.toDigits 10 m).length := by
  by_contra hshort
  have hexp := h.le_exponent m e hm hmem
  have hpos : 0 < (Nat.toDigits 10 m).length := Nat.length_toDigits_pos
  unfold Decimal.length at hshort
  -- The power of ten with the length of the found decimal lies between the two.
  have hbelow : (m * 10 ^ e : ℚ) ≤ 10 ^ (d.exponent + (Nat.toDigits 10 d.digits).length - 1) := by
    refine (mul_lt_ten_zpow m e).le.trans (ten_zpow_le_iff.mpr ?_)
    omega
  have habove := ten_zpow_le_mul h.ne_zero d.exponent
  have hpower := mem_roundsTo_of_between hmem h.mem hbelow habove
  have hle := h.le_exponent 1 (d.exponent + (Nat.toDigits 10 d.digits).length - 1) one_ne_zero
    (by rwa [Nat.cast_one, one_mul])
  omega

/-- No grid that is coarser than the magnitude has a point that rounds to it. -/
theorem le_leadingPower (hunits : 0 < units) (hm : m ≠ 0) (h : (m * 10 ^ e : ℚ) ∈ roundsTo units) :
    e ≤ leadingPower units + 1 := by
  have hbound := (le_of_mem_roundsTo hunits h).2
  have hleading := (leadingPower_spec hunits).2
  have hone : (1 : ℚ) ≤ m := by exact_mod_cast Nat.one_le_iff_ne_zero.mpr hm
  have hstep : (10 : ℚ) ^ e ≤ m * 10 ^ e := le_mul_of_one_le_left (ten_zpow_pos e).le hone
  rw [div_lt_iff₀ one_cast_pos] at hleading
  have hnext : (10 : ℚ) ^ e < 10 ^ (leadingPower units + 1 + 1) := by
    rw [ten_zpow_add (leadingPower units + 1) 1, zpow_one]
    refine lt_of_mul_lt_mul_right ?_ one_cast_pos.le
    have hscaled := mul_le_mul_of_nonneg_right hstep one_cast_pos.le
    linarith
  have hlt := ten_zpow_lt_iff.mp hnext
  omega

/-- A grid of seventeen more places than the leading digit has a point that rounds to the
magnitude. -/
theorem exists_mem_finest (hunits : 0 < units) :
    ((stepsBelow units (leadingPower units - 17) + 1 : Nat) * 10 ^ (leadingPower units - 17) : ℚ) ∈
      roundsTo units := by
  obtain ⟨hlow, hhigh⟩ := stepsBelow_le units (leadingPower units - 17)
  have hleading := (leadingPower_spec hunits).1
  have hbits : (units : ℚ) < (2 ^ (53 : Nat) : Nat) * (2 ^ excess units : Nat) := by
    exact_mod_cast lt_two_pow_excess units
  have hplaces : (10 : ℚ) ^ leadingPower units =
      10 ^ (leadingPower units - 17) * (10 ^ (17 : Nat) : Nat) := by
    rw [← ten_zpow_natCast, ← ten_zpow_add]
    congr 1
    omega
  have hone := one_cast_pos
  rw [div_lt_iff₀ hone] at hhigh
  rw [le_div_iff₀ hone] at hlow hleading
  rw [hplaces] at hleading
  refine mem_roundsTo_of_le hunits hhigh.le ?_
  have hnext : ((stepsBelow units (leadingPower units - 17) + 1 : Nat) *
      10 ^ (leadingPower units - 17) * one : ℚ) =
        stepsBelow units (leadingPower units - 17) * 10 ^ (leadingPower units - 17) * one +
          10 ^ (leadingPower units - 17) * one := by
    push_cast
    ring
  have hstep : (0 : ℚ) < (2 ^ excess units : Nat) := by exact_mod_cast Nat.two_pow_pos _
  rw [hnext]
  rw [mul_right_comm] at hleading
  generalize (10 : ℚ) ^ (leadingPower units - 17) * one = grid at *
  -- Half a step is more than a grid step, since 2 ^ 54 is less than 10 ^ 17.
  push_cast at hbits hstep hleading ⊢
  linarith

theorem isCoarsest_shortest (fits : Fits units) (hunits : 0 < units) :
    IsCoarsest units (shortest units) := by
  obtain ⟨d, hd⟩ : ∃ d, ((List.range 20).findSome? fun i : Nat =>
      (roundingInterval units).neighbour? (leadingPower units + 1 - i)) = some d := by
    rw [← Option.isSome_iff_exists, List.findSome?_isSome_iff]
    obtain ⟨d, hd⟩ := exists_neighbour? fits hunits (Nat.succ_ne_zero _) (exists_mem_finest hunits)
    refine ⟨18, by decide, ?_⟩
    have hexp : leadingPower units + 1 - (18 : Nat) = leadingPower units - 17 := by omega
    rw [hexp, hd]
    rfl
  obtain ⟨i, hfound, hnone⟩ := exists_of_findSome?_range hd
  obtain ⟨hexp, hne, hmem⟩ := of_neighbour? hfound
  -- The grids that were passed have no point that rounds to the magnitude, else one of their
  -- neighbours would have been found; grids before the first one are too coarse to have any.
  have hcoarsest : IsCoarsest units d := by
    refine ⟨hne, hmem, ?_⟩
    intro m e hm h
    by_contra hlt
    have htop := le_leadingPower hunits hm h
    obtain ⟨j, hj⟩ : ∃ j : Nat, e = leadingPower units + 1 - j :=
      ⟨(leadingPower units + 1 - e).toNat, by omega⟩
    obtain ⟨c, hc⟩ := exists_neighbour? fits hunits hm h
    rw [hj, hnone j (by omega)] at hc
    cases hc
  have hshortest : shortest units = d.stripped := by
    simp only [shortest]
    rw [if_neg (by omega), hd]
    rfl
  rw [hshortest, Decimal.stripped_eq_self hcoarsest.mod_ne_zero]
  exact hcoarsest

end Binary64
end MetricFrames
