import MetricFrames.Binary64.Arithmetic
import Mathlib.Order.Lattice
import Mathlib.Tactic.Common

/-!
# Rounding keeps bounds

A number of the format that bounds a quotient of units bounds the rounded quotient too
(`roundUnits_le`, `le_roundUnits`). So numbers of the format are their own roundings, and what is
below a rounded sum is below the exact sum (`units_lt_of_lt_add`).
-/

namespace MetricFrames

-- Powers of naturals are those of the core library, whatever else is in scope.
attribute [local instance (high)] instPowNat

variable {num den b t n : Nat}

theorem div_le_roundHalfEven (num den : Nat) : num / den ≤ roundHalfEven num den := by
  simp only [roundHalfEven]
  split
  · omega
  · split <;> omega

theorem le_roundHalfEven (pos : 0 < den) (h : b * den ≤ num) : b ≤ roundHalfEven num den := by
  have hdiv : b ≤ num / den := (Nat.le_div_iff_mul_le pos).mpr h
  exact hdiv.trans (div_le_roundHalfEven num den)

theorem roundHalfEven_le_of_le (pos : 0 < den) (h : num ≤ b * den) :
    roundHalfEven num den ≤ b := by
  rcases Nat.lt_or_eq_of_le h with lt | rfl
  · exact roundHalfEven_le lt
  · have hdiv : b * den / den = b := Nat.mul_div_cancel b pos
    have hmod : b * den % den = 0 := Nat.mul_mod_left b den
    simp only [roundHalfEven, hdiv, hmod]
    rw [if_pos (by omega)]

/-- A quotient is rounded to an integer or less exactly if it is below the integer and a half; the
half itself goes down if the integer is even. -/
theorem roundHalfEven_le_iff (pos : 0 < den) : roundHalfEven num den ≤ b ↔
    2 * num < (2 * b + 1) * den ∨ b % 2 = 0 ∧ 2 * num = (2 * b + 1) * den := by
  have hnum : num = num / den * den + num % den := (Nat.div_add_mod' num den).symm
  have hr : num % den < den := Nat.mod_lt num pos
  have hhalf : (2 * b + 1) * den = 2 * (b * den) + den := by
    rw [Nat.add_mul, Nat.one_mul, Nat.mul_assoc]
  rcases Nat.lt_trichotomy (num / den) b with hq | hq | hq
  · have hle : (num / den + 1) * den ≤ b * den := Nat.mul_le_mul_right den hq
    have hround := roundHalfEven_le_succ num den
    rw [Nat.add_mul, Nat.one_mul] at hle
    omega
  · rw [hq] at hnum
    simp only [roundHalfEven, hq]
    split
    · omega
    · split <;> omega
  · have hge : (b + 1) * den ≤ num / den * den := Nat.mul_le_mul_right den hq
    have hround := div_le_roundHalfEven num den
    rw [Nat.add_mul, Nat.one_mul] at hge
    omega

theorem roundHalfEven_mul_right {k : Nat} (hk : 0 < k) (num den : Nat) :
    roundHalfEven (num * k) (den * k) = roundHalfEven num den := by
  have hless : 2 * (num % den * k) < den * k ↔ 2 * (num % den) < den := by
    rw [← Nat.mul_assoc, Nat.mul_lt_mul_right hk]
  have hmore : den * k < 2 * (num % den * k) ↔ den < 2 * (num % den) := by
    rw [← Nat.mul_assoc, Nat.mul_lt_mul_right hk]
  simp only [roundHalfEven, Nat.mul_div_mul_right _ _ hk, Nat.mul_mod_mul_right, hless, hmore]

namespace Binary64

/-- The sign and magnitude in units as one integer, if the number is finite. -/
def units? : Binary64 → Option Int
  | .finite negative units _ => some (signed negative units)
  | _ => none

/-! ### Magnitudes -/

theorem two_pow_le_of_excess_pos (h : 0 < excess n) : 2 ^ (52 + excess n) ≤ n := by
  have hn : n ≠ 0 := by
    rintro rfl
    simp [excess] at h
  have hlog : 52 + excess n = n.log2 := by
    simp only [excess] at h ⊢
    omega
  rw [hlog]
  exact Nat.log2_self_le hn

/-- A magnitude of the format is a multiple of every power of two that leaves it 53 bits or more. -/
theorem Fits.exists_eq_mul (ht : Fits t) {shift : Nat} (h : 2 ^ (52 + shift) ≤ t) :
    ∃ q, t = q * 2 ^ shift := by
  obtain ⟨⟨s, k, hs, rfl⟩, -⟩ := ht
  have hlt : 2 ^ (52 + shift) < 2 ^ (53 + k) := by
    have hk : 0 < 2 ^ k := Nat.two_pow_pos k
    calc 2 ^ (52 + shift) ≤ s * 2 ^ k := h
      _ < 2 ^ (53 : Nat) * 2 ^ k := Nat.mul_lt_mul_of_pos_right hs hk
      _ = 2 ^ (53 + k) := (Nat.pow_add 2 53 k).symm
  have hexp : 52 + shift < 53 + k := (Nat.pow_lt_pow_iff_right (by decide)).mp hlt
  have hsplit : k = (k - shift) + shift := by omega
  refine ⟨s * 2 ^ (k - shift), ?_⟩
  rw [Nat.mul_assoc, ← Nat.pow_add, ← hsplit]

theorem roundUnits_le (pos : 0 < den) (ht : Fits t) (h : num ≤ t * den) :
    roundUnits num den ≤ t := by
  have hquot : num / den ≤ t := Nat.div_le_of_le_mul (by rwa [Nat.mul_comm])
  obtain ⟨q, hq⟩ : ∃ q, t = q * 2 ^ excess (num / den) := by
    by_cases hzero : excess (num / den) = 0
    · exact ⟨t, by rw [hzero, Nat.pow_zero, Nat.mul_one]⟩
    · exact ht.exists_eq_mul ((two_pow_le_of_excess_pos (by omega)).trans hquot)
  have hden : 0 < den * 2 ^ excess (num / den) := Nat.mul_pos pos (Nat.two_pow_pos _)
  have hround : roundHalfEven num (den * 2 ^ excess (num / den)) ≤ q := by
    refine roundHalfEven_le_of_le hden (h.trans_eq ?_)
    rw [hq, Nat.mul_assoc, Nat.mul_comm (2 ^ _) den]
  calc roundUnits num den ≤ q * 2 ^ excess (num / den) := Nat.mul_le_mul_right _ hround
    _ = t := hq.symm

theorem le_roundUnits (pos : 0 < den) (ht : Fits t) (h : t * den ≤ num) :
    t ≤ roundUnits num den := by
  have hquot : t ≤ num / den := (Nat.le_div_iff_mul_le pos).mpr h
  have hden : 0 < den * 2 ^ excess (num / den) := Nat.mul_pos pos (Nat.two_pow_pos _)
  -- A larger magnitude is a multiple of the last bit that rounding keeps; a smaller one lies below
  -- the least quotient that loses this many bits.
  by_cases hlarge : 2 ^ (52 + excess (num / den)) ≤ t
  · obtain ⟨q, hq⟩ := ht.exists_eq_mul hlarge
    have hround : q ≤ roundHalfEven num (den * 2 ^ excess (num / den)) := by
      refine le_roundHalfEven hden (le_trans (Nat.le_of_eq ?_) h)
      rw [hq, Nat.mul_assoc, Nat.mul_comm (2 ^ _) den]
    calc t = q * 2 ^ excess (num / den) := hq
      _ ≤ roundUnits num den := Nat.mul_le_mul_right _ hround
  · by_cases hzero : excess (num / den) = 0
    · have hround : t ≤ roundHalfEven num (den * 2 ^ excess (num / den)) := by
        rw [hzero, Nat.pow_zero, Nat.mul_one]
        exact le_roundHalfEven pos h
      exact hround.trans (Nat.le_mul_of_pos_right _ (Nat.two_pow_pos _))
    · have hleast : 2 ^ (52 + excess (num / den)) ≤ num / den :=
        two_pow_le_of_excess_pos (by omega)
      have hround : 2 ^ 52 ≤ roundHalfEven num (den * 2 ^ excess (num / den)) := by
        refine le_roundHalfEven hden ?_
        calc 2 ^ 52 * (den * 2 ^ excess (num / den))
            = 2 ^ (52 + excess (num / den)) * den := by
              rw [Nat.pow_add, Nat.mul_assoc, Nat.mul_comm den]
          _ ≤ num / den * den := Nat.mul_le_mul_right den hleast
          _ ≤ num := Nat.div_mul_le_self num den
      calc t ≤ 2 ^ 52 * 2 ^ excess (num / den) := by
            rw [← Nat.pow_add]
            omega
        _ ≤ roundUnits num den := Nat.mul_le_mul_right _ hround

theorem roundUnits_mul_right {k : Nat} (hk : 0 < k) (num den : Nat) :
    roundUnits (num * k) (den * k) = roundUnits num den := by
  have hshift : den * k * 2 ^ excess (num / den) = den * 2 ^ excess (num / den) * k := by
    rw [Nat.mul_assoc, Nat.mul_assoc, Nat.mul_comm k]
  simp only [roundUnits, Nat.mul_div_mul_right _ _ hk, hshift, roundHalfEven_mul_right hk]

theorem ofUnits_mul_right {k : Nat} (hk : 0 < k) (negative : Bool) (num den : Nat) :
    ofUnits negative (num * k) (den * k) = ofUnits negative num den := by
  by_cases hden : 0 < den
  · have hpos : 0 < den * k := Nat.mul_pos hden hk
    simp only [ofUnits, dif_pos hden, dif_pos hpos, roundUnits_mul_right hk]
  · have hnot : ¬ 0 < den * k := by
      rw [Nat.eq_zero_of_not_pos hden, Nat.zero_mul]
      exact Nat.lt_irrefl 0
    rw [ofUnits, ofUnits, dif_neg hden, dif_neg hnot]

theorem roundUnits_of_fits (ht : Fits t) : roundUnits t 1 = t :=
  Nat.le_antisymm (roundUnits_le Nat.one_pos ht (Nat.le_of_eq (Nat.mul_one t).symm))
    (le_roundUnits Nat.one_pos ht (Nat.le_of_eq (Nat.mul_one t)))

theorem ofUnits_of_fits (negative : Bool) (ht : Fits t) :
    ofUnits negative t 1 = .finite negative t ht := by
  have hround := roundUnits_of_fits ht
  have hsmall : roundUnits t 1 < limit := by
    rw [hround]
    exact ht.2
  rw [ofUnits, dif_pos Nat.one_pos, dif_pos hsmall]
  simp only [hround]

/-! ### Whole numbers -/

theorem fits_mul_one (h : n < 2 ^ (53 : Nat)) : Fits (n * one) := by
  refine ⟨⟨n, unitBits, h, rfl⟩, ?_⟩
  have hone : n * one < 2 ^ (53 : Nat) * one := Nat.mul_lt_mul_of_pos_right h one_pos
  have hpow : 2 ^ (53 : Nat) * one = 2 ^ (53 + unitBits) := by rw [one, Nat.pow_add]
  have hlimit : 2 ^ (53 + unitBits) < limit := Nat.pow_lt_pow_right (by decide) (by decide)
  omega

theorem ofInt_natCast (h : n < 2 ^ (53 : Nat)) :
    ofInt n = .finite false (n * one) (fits_mul_one h) := by
  have hsign : decide ((n : Int) < 0) = false := decide_eq_false (by omega)
  rw [ofInt, ofRatio, hsign, Int.natAbs_natCast, ofUnits_of_fits]

theorem toInteger_mul_one {i : Int} (fits : Fits (i.natAbs * one)) :
    (finite (decide (i < 0)) (i.natAbs * one) fits).toInteger = .ok i := by
  have hsigned : (if decide (i < 0) = true then -(i.natAbs : Int) else i.natAbs) = i := by
    by_cases h : i < 0
    · rw [if_pos (decide_eq_true h)]
      omega
    · rw [if_neg (by simpa using h)]
      omega
  rw [toInteger, Nat.mul_div_cancel _ one_pos, hsigned]

/-- The quotient of a multiple is exact up to the last integer of 53 bits. -/
theorem quotient_mul {i : Int} {den : Nat} (hden : 0 < den) (hi : i.natAbs < 2 ^ (53 : Nat)) :
    quotient (i * den) den = .ok (.finite (i < 0) (i.natAbs * one) (fits_mul_one hi)) := by
  have hsign : decide (i * den < 0) = decide (i < 0) := by
    have hpos : (0 : Int) < den := Int.natCast_pos.mpr hden
    have hneg : i < 0 → i * den < 0 := fun h => Int.mul_neg_of_neg_of_pos h hpos
    have hnonneg : 0 ≤ i → 0 ≤ i * den := fun h => Int.mul_nonneg h (Int.le_of_lt hpos)
    rw [decide_eq_decide]
    omega
  have hunits : (i * den).natAbs * one = i.natAbs * one * den := by
    rw [Int.natAbs_mul, Int.natAbs_natCast, Nat.mul_right_comm]
  have hone := ofUnits_mul_right hden (decide (i < 0)) (i.natAbs * one) 1
  rw [Nat.one_mul, ofUnits_of_fits (decide (i < 0)) (fits_mul_one hi)] at hone
  rw [quotient, ofRatio, hsign, hunits, hone]
  rfl

/-- A magnitude of at most 53 bits above some bit stays in the format when a multiple of that bit is
taken from it. -/
theorem Fits.sub {k : Nat} (ht : Fits t) (hb : 0 < b) (h : t ≤ 2 ^ (53 : Nat) * 2 ^ k) :
    Fits (t - b * 2 ^ k) := by
  obtain ⟨⟨s, j, hs, rfl⟩, hlimit⟩ := ht
  refine ⟨?_, Nat.lt_of_le_of_lt (Nat.sub_le _ _) hlimit⟩
  by_cases hj : j ≤ k
  · have hsplit : k = (k - j) + j := by omega
    refine ⟨s - b * 2 ^ (k - j), j, by omega, ?_⟩
    rw [Nat.sub_mul, Nat.mul_assoc b, ← Nat.pow_add, ← hsplit]
  · have hsplit : j = (j - k) + k := by omega
    have hpow : s * 2 ^ j = s * 2 ^ (j - k) * 2 ^ k := by
      rw [Nat.mul_assoc, ← Nat.pow_add, ← hsplit]
    rw [hpow] at h ⊢
    have hle : s * 2 ^ (j - k) ≤ 2 ^ (53 : Nat) := Nat.le_of_mul_le_mul_right h (Nat.two_pow_pos k)
    exact ⟨s * 2 ^ (j - k) - b, k, by omega, (Nat.sub_mul _ _ _).symm⟩

/-! ### Sums -/

/-- A number of the format that bounds a sum bounds the rounded sum. -/
theorem signed_roundUnits_le {negative : Bool} {sum : Int} (ht : Fits t)
    (h : sum ≤ signed negative t) :
    signed (sum < 0) (roundUnits sum.natAbs 1) ≤ signed negative t := by
  have hup : sum.natAbs ≤ t → roundUnits sum.natAbs 1 ≤ t :=
    fun hle => roundUnits_le Nat.one_pos ht (by omega)
  have hdown : t ≤ sum.natAbs → t ≤ roundUnits sum.natAbs 1 :=
    fun hle => le_roundUnits Nat.one_pos ht (by omega)
  by_cases hsum : sum < 0
  · cases negative with
    | true =>
      simp only [signed, hsum, decide_true, if_true] at h ⊢
      omega
    | false =>
      simp only [signed, hsum, decide_true, if_true, Bool.false_eq_true, if_false]
      omega
  · cases negative with
    | true =>
      simp only [signed, hsum, decide_false, if_true, Bool.false_eq_true, if_false] at h ⊢
      omega
    | false =>
      simp only [signed, hsum, decide_false, Bool.false_eq_true, if_false] at h ⊢
      omega

/-- What is below a rounded number of units is below the exact number. -/
theorem units_lt_of_lt_ofUnits {x : Binary64} {a : Int} (hx : x.units? = some a) {sum : Int}
    (h : x.lt (ofUnits (sum < 0) sum.natAbs 1) = true) : a < sum := by
  cases x with
  | nan => cases hx
  | infinite negative => cases hx
  | finite negative m fits =>
    obtain rfl : signed negative m = a := Option.some.inj hx
    by_contra hge
    have hround := signed_roundUnits_le fits (Int.not_lt.mp hge)
    rw [ofUnits, dif_pos Nat.one_pos] at h
    split at h
    · simp only [lt, decide_eq_true_eq] at h
      omega
    · next hlarge =>
      have hlimit : m < limit := fits.2
      have hsum : ¬ sum < 0 := by simpa [lt] using h
      simp only [signed, hsum, decide_false, Bool.false_eq_true, if_false] at hround
      split at hround <;> omega

theorem units_lt_of_lt_add {x y z : Binary64} {a b c : Int} (hx : x.units? = some a)
    (hy : y.units? = some b) (hz : z.units? = some c) (h : x.lt (y.add z) = true) : a < b + c := by
  cases y with
  | nan => cases hy
  | infinite negative => cases hy
  | finite p m _ =>
    cases z with
    | nan => cases hz
    | infinite negative => cases hz
    | finite q n _ =>
      obtain rfl : signed p m = b := Option.some.inj hy
      obtain rfl : signed q n = c := Option.some.inj hz
      simp only [add] at h
      split at h
      · next hzero =>
        rw [hzero]
        cases x with
        | nan => cases hx
        | infinite negative => cases hx
        | finite r k _ =>
          obtain rfl : signed r k = a := Option.some.inj hx
          simpa [lt, zero, signed] using h
      · exact units_lt_of_lt_ofUnits hx h

/-! ### The end of the range -/

theorem excess_eq {e : Nat} (hlow : 2 ^ (52 + e) ≤ n) (hhigh : n < 2 ^ (53 + e)) :
    excess n = e := by
  have hpos := Nat.two_pow_pos (52 + e)
  have hhigh' : n < 2 ^ (52 + e + 1) := by
    rwa [show 52 + e + 1 = 53 + e by omega]
  have hlog : n.log2 = 52 + e := (Nat.log2_eq_iff (by omega)).mpr ⟨hlow, hhigh'⟩
  rw [excess, hlog]
  omega

theorem two_pow_le_roundUnits {e : Nat} (pos : 0 < den) (h : 2 ^ (53 + e) ≤ num / den) :
    2 ^ (53 + e) ≤ roundUnits num den := by
  have hq : num / den ≠ 0 := by
    have := Nat.two_pow_pos (53 + e)
    omega
  have hlog : 53 + e ≤ (num / den).log2 := (Nat.le_log2 hq).mpr h
  have hsum : 52 + excess (num / den) = (num / den).log2 := by
    rw [excess]
    omega
  have hround : 2 ^ 52 ≤ roundHalfEven num (den * 2 ^ excess (num / den)) := by
    refine le_roundHalfEven (Nat.mul_pos pos (Nat.two_pow_pos _)) ?_
    calc 2 ^ 52 * (den * 2 ^ excess (num / den))
        = 2 ^ (num / den).log2 * den := by
          rw [← hsum, Nat.pow_add, Nat.mul_assoc, Nat.mul_comm den]
      _ ≤ num / den * den := Nat.mul_le_mul_right den (Nat.log2_self_le hq)
      _ ≤ num := Nat.div_mul_le_self num den
  calc 2 ^ (53 + e) ≤ 2 ^ (num / den).log2 := Nat.pow_le_pow_right (by decide) hlog
    _ = 2 ^ 52 * 2 ^ excess (num / den) := by rw [← hsum, Nat.pow_add]
    _ ≤ roundUnits num den := Nat.mul_le_mul_right _ hround

/-- A quotient of units is rounded up to a power of two exactly from the middle between this power
and the largest magnitude of 53 bits below it. -/
theorem roundUnits_lt_iff {e : Nat} (pos : 0 < den) (he : 53 + e ≤ limitBits) :
    roundUnits num den < 2 ^ (53 + e) ↔ 2 * num < (2 ^ (54 : Nat) - 1) * (den * 2 ^ e) := by
  have hpow : 0 < 2 ^ e := Nat.two_pow_pos e
  have hden : 0 < den * 2 ^ e := Nat.mul_pos pos hpow
  have hsplit : ∀ k, 2 ^ (k + e) * den = 2 ^ k * (den * 2 ^ e) := by
    intro k
    rw [Nat.pow_add, Nat.mul_assoc, Nat.mul_comm den]
  rcases Nat.lt_or_ge (num / den) (2 ^ (52 + e)) with hq | hq
  · have hnum : num < 2 ^ (52 + e) * den := (Nat.div_lt_iff_lt_mul pos).mp hq
    have hless : 2 ^ (52 + e) < 2 ^ (53 + e) := Nat.pow_lt_pow_right (by decide) (by omega)
    have hfits : Fits (2 ^ (52 + e)) :=
      ⟨⟨1, 52 + e, by decide, (Nat.one_mul _).symm⟩, Nat.pow_lt_pow_right (by decide) (by omega)⟩
    have hround := roundUnits_le pos hfits (Nat.le_of_lt hnum)
    rw [hsplit] at hnum
    omega
  · rcases Nat.lt_or_ge (num / den) (2 ^ (53 + e)) with hq' | hq'
    · have hiff : roundHalfEven num (den * 2 ^ e) ≤ 2 ^ (53 : Nat) - 1 ↔ _ :=
        roundHalfEven_le_iff hden
      rw [roundUnits, excess_eq hq hq', Nat.pow_add, Nat.mul_lt_mul_right hpow]
      omega
    · have hround := two_pow_le_roundUnits pos hq'
      have hnum : 2 ^ (53 + e) * den ≤ num := (Nat.le_div_iff_mul_le pos).mp hq'
      rw [hsplit] at hnum
      omega

/-- By how many bits the least magnitude that is out of range is shifted. -/
def ceilingShift : Nat := 970

/-- The least magnitude that is rounded out of range: the middle between the largest number of the
format and `2 ^ 1024`. -/
def ceiling : Nat := (2 ^ (54 : Nat) - 1) * 2 ^ ceilingShift

theorem le_ceiling : 2 ^ (54 : Nat) - 1 ≤ ceiling :=
  Nat.le_mul_of_pos_right _ (Nat.two_pow_pos ceilingShift)

/-- What is nearest to a quotient is out of range exactly if its magnitude reaches the ceiling. -/
theorem inRange_ofRatio_eq_error_iff {negative : Bool} (pos : 0 < den) {tooLarge f : Fault} :
    (ofRatio negative num den).inRange tooLarge = .error f ↔
      f = tooLarge ∧ den * ceiling ≤ num := by
  have hbits : limitBits = 53 + (ceilingShift + (unitBits + 1)) := rfl
  have hone : 2 ^ unitBits = one := rfl
  have hmiddle : (2 ^ (54 : Nat) - 1) * (den * 2 ^ (ceilingShift + (unitBits + 1))) =
      den * ceiling * (2 * one) := by
    rw [Nat.pow_add, Nat.pow_succ' (n := unitBits), hone, ceiling, Nat.mul_left_comm,
      Nat.mul_assoc, Nat.mul_assoc]
  have hround : roundUnits (num * one) den < limit ↔ num < den * ceiling := by
    rw [limit, hbits, roundUnits_lt_iff pos (by decide), hmiddle, Nat.mul_left_comm,
      Nat.mul_lt_mul_right (Nat.mul_pos (by decide) one_pos)]
  rw [ofRatio, ofUnits, dif_pos pos]
  split
  · next hsmall =>
    have hnot : ¬ den * ceiling ≤ num := Nat.not_le.mpr (hround.mp hsmall)
    simp [inRange, hnot]
  · next hlarge =>
    have hle : den * ceiling ≤ num := Nat.not_lt.mp (mt hround.mpr hlarge)
    simp [inRange, hle, eq_comm]

theorem quotient_eq_error_iff {i : Int} (pos : 0 < den) {f : Fault} :
    quotient i den = .error f ↔ f = .quotientTooLarge ∧ den * ceiling ≤ i.natAbs := by
  rw [quotient, inRange_ofRatio_eq_error_iff pos]

/-- What is in range has an integer part. -/
theorem exists_toInteger_of_quotient {i : Int} (pos : 0 < den) {x : Binary64}
    (h : quotient i den = .ok x) : ∃ n, x.toInteger = .ok n := by
  rw [quotient, ofRatio, ofUnits, dif_pos pos] at h
  split at h
  · cases h
    exact ⟨_, rfl⟩
  · cases h

end Binary64
end MetricFrames
