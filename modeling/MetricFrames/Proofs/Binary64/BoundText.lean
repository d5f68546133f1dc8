import MetricFrames.Proofs.Binary64.Rendering

/-!
# Bucket bounds as text

The text of a bucket bound says the same number as the text of data, which is the shortest that
reads back, in plain notation or with an exponent (`boundText_faithful`). So bounds that differ have
texts that differ.
-/

namespace MetricFrames

/-- A numeral with or without a sign. -/
def Numeral.ofText? (s : List Char) : Option Numeral :=
  let (negative, body) := Binary64.readSign s
  Binary64.readNumeral? negative body

/-- A numeral that reads as a number, and no numeral that does has fewer digits. -/
def Numeral.IsShortest (n : Numeral) (x : Binary64) : Prop :=
  n.value = x ∧ ∀ k : Numeral, k.value = x → n.length ≤ k.length

/-- Plain notation: digits, perhaps a point and more digits, without needless zeros. -/
def IsPlain (s : List Char) : Prop :=
  ∃ whole places, s = pointed whole places ∧ whole ≠ [] ∧ IsDigits whole ∧ IsDigits places ∧
    (whole = ['0'] ∨ whole.head? ≠ some '0') ∧ places.getLast? ≠ some '0'

/-- Scientific notation: one digit, perhaps a point and more digits of which the last is no zero,
and an exponent with a sign and at least two digits. -/
def IsScientific (s : List Char) : Prop :=
  ∃ first places sign power, s = pointed [first] places ++ 'e' :: sign :: power ∧
    first.isDigit = true ∧ first ≠ '0' ∧ IsDigits places ∧ places.getLast? ≠ some '0' ∧
    (sign = '+' ∨ sign = '-') ∧ IsDigits power ∧ 2 ≤ power.length

theorem IsPlain.not_mem {s : List Char} (h : IsPlain s) : 'e' ∉ s := by
  obtain ⟨whole, places, rfl, -, hwhole, hplaces, -⟩ := h
  have hnot : ∀ {ds : List Char}, IsDigits ds → 'e' ∉ ds :=
    fun hds hmem => absurd (hds 'e' hmem) (by decide)
  unfold pointed
  split
  · exact hnot hwhole
  · simp [hnot hwhole, hnot hplaces]

theorem IsScientific.mem {s : List Char} (h : IsScientific s) : 'e' ∈ s := by
  obtain ⟨first, places, sign, power, rfl, -⟩ := h
  simp

namespace Binary64

variable {x : Binary64} {a : Int} {body : List Char} {q : ℚ} {d : Decimal} {negative : Bool}
  {units : Nat} {fits : Fits units}

/-! ### The notation -/

theorem isPlain_plain (h : d.digits % 10 ≠ 0) : IsPlain d.plain := by
  obtain ⟨whole, places, htext, hspells, -, htidy⟩ := plain_spells d
  obtain ⟨hfirst, hlast⟩ := htidy h
  exact ⟨whole, places, htext, hspells.ne_nil, hspells.before, hspells.after, hfirst, hlast⟩

theorem isScientific_scientific (h : d.digits % 10 ≠ 0) : IsScientific d.scientific := by
  obtain ⟨first, places, htext, hspells, htidy⟩ := scientific_spells d
  obtain ⟨power, hpower, hdigits, hlength, -⟩ := exponentText_eq d.leading
  obtain ⟨hfirst, hlast⟩ := htidy h
  refine ⟨first, places, _, power, by rw [htext, hpower], hspells.before first List.mem_cons_self,
    hfirst, hspells.after, hlast, ?_, hdigits, hlength⟩
  split
  · exact .inr rfl
  · exact .inl rfl

/-! ### The numerals -/

theorem exists_ofText? (h : Reads body q) (negative : Bool) :
    ∃ n, Numeral.ofText? (withSign negative body) = some n ∧ n.negative = negative ∧
      n.magnitude = q ∧ readLenient? (withSign negative body) = some n.value := by
  obtain ⟨n, hn, hsign, hsize⟩ := h.numeral negative
  refine ⟨n, ?_, hsign, hsize, readLenient?_withSign h hn⟩
  rw [Numeral.ofText?, readSign_withSign h]
  exact hn

theorem leading_spec (h : d.digits ≠ 0) :
    (10 : ℚ) ^ d.leading ≤ d.exact ∧ d.exact < 10 ^ (d.leading + 1) := by
  have hexp : d.leading + 1 = d.exponent + (Nat.toDigits 10 d.digits).length := by
    rw [Decimal.leading, Decimal.length]
    omega
  refine ⟨ten_zpow_le_mul h d.exponent, ?_⟩
  rw [hexp]
  exact mul_lt_ten_zpow d.digits d.exponent

theorem isShortest_shortest (hunits : 0 < units) :
    (Numeral.mk negative (shortest units).digits (shortest units).exponent).IsShortest
      (finite negative units fits) := by
  have hcoarsest := isCoarsest_shortest fits hunits
  refine ⟨(Numeral.value_eq_finite_iff hunits).mpr ⟨rfl, hcoarsest.mem⟩, ?_⟩
  intro k hk
  obtain ⟨-, hmem⟩ := (Numeral.value_eq_finite_iff hunits).mp hk
  refine hcoarsest.length_le ?_ hmem
  intro hzero
  have hlow := Numeral.lt_magnitude hunits hmem
  have hpos := ten_zpow_pos (-330)
  rw [Numeral.magnitude, hzero, Nat.cast_zero, zero_mul] at hlow
  linarith

theorem sizeText_boundStyle (h : d.digits % 10 ≠ 0) :
    if -4 ≤ d.leading ∧ d.leading < 6 then IsPlain (sizeText boundStyle d)
      else IsScientific (sizeText boundStyle d) := by
  have hpoint : (boundStyle.wholePoint && decide (0 ≤ d.exponent)) = false := rfl
  have hbelow : boundStyle.positionalBelow = 6 := rfl
  unfold sizeText
  rw [hbelow, hpoint]
  split
  · simpa using isPlain_plain h
  · exact isScientific_scientific h

theorem mem_withSign : 'e' ∈ withSign negative body ↔ 'e' ∈ body := by
  unfold withSign
  split <;> simp

theorem exists_finite (hx : x.units? = some a) (hne : a ≠ 0) :
    ∃ negative units fits, x = finite negative units fits ∧ 0 < units := by
  cases x with
  | nan => cases hx
  | infinite negative => cases hx
  | finite negative units fits =>
    refine ⟨negative, units, fits, rfl, Nat.pos_of_ne_zero ?_⟩
    rintro rfl
    obtain rfl : signed negative 0 = a := Option.some.inj hx
    cases negative <;> exact hne rfl

theorem readLenient?_boundText (hx : x.units? = some a) (hne : a ≠ 0) :
    readLenient? x.boundText = some x := by
  obtain ⟨negative, units, fits, rfl, hunits⟩ := exists_finite hx hne
  obtain ⟨n, -, hsign, hsize, hread⟩ :=
    exists_ofText? (reads_sizeText boundStyle (shortest units)) negative
  have hmem := (isCoarsest_shortest fits hunits).mem
  rw [boundText, render_finite boundStyle hunits, hread,
    (Numeral.value_eq_finite_iff hunits).mpr ⟨hsign, hsize ▸ hmem⟩]

/-- The text of a finite number other than zero as a bucket bound. It is a numeral with the exact
value of the text in data, which is that of a shortest numeral for the number, so it is read as the
number again and no other number has this text. It is in plain notation exactly if the power of ten
of its leading digit is at least -4 and less than 6, and in scientific notation otherwise. -/
theorem boundText_faithful (hx : x.units? = some a) (hne : a ≠ 0) :
    (∃ bound data shortest : Numeral,
      Numeral.ofText? x.boundText = some bound ∧ Numeral.ofText? x.text = some data ∧
      bound.exact = data.exact ∧ bound.exact = shortest.exact ∧ shortest.IsShortest x ∧
      bound.value = x ∧
      ∃ power : ℤ, 10 ^ power ≤ |bound.exact| ∧ |bound.exact| < 10 ^ (power + 1) ∧
        ('e' ∉ x.boundText ↔ -4 ≤ power ∧ power < 6) ∧
        if -4 ≤ power ∧ power < 6 then IsPlain (readSign x.boundText).2
          else IsScientific (readSign x.boundText).2) ∧
    readLenient? x.boundText = some x ∧
    ∀ (y : Binary64) (b : Int), y.units? = some b → b ≠ 0 → y.boundText = x.boundText → y = x := by
  refine ⟨?_, readLenient?_boundText hx hne, ?_⟩
  · obtain ⟨negative, units, fits, rfl, hunits⟩ := exists_finite hx hne
    have hcoarsest := isCoarsest_shortest fits hunits
    have hreads := reads_sizeText boundStyle (shortest units)
    obtain ⟨bound, hbound, hsign, hsize, -⟩ := exists_ofText? hreads negative
    obtain ⟨data, hdata, hsign', hsize', -⟩ :=
      exists_ofText? (reads_sizeText dataStyle (shortest units)) negative
    have hleading := leading_spec hcoarsest.ne_zero
    have hnotation := sizeText_boundStyle hcoarsest.mod_ne_zero
    have habs : |bound.exact| = (shortest units).exact := by
      have hpos : 0 ≤ bound.magnitude := hsize ▸ (ten_zpow_pos _).le.trans hleading.1
      rw [Numeral.exact, ← hsize]
      split
      · rw [abs_neg, abs_of_nonneg hpos]
      · rw [abs_of_nonneg hpos]
    rw [boundText, text, render_finite boundStyle hunits, render_finite dataStyle hunits]
    refine ⟨bound, data, ⟨negative, (shortest units).digits, (shortest units).exponent⟩, hbound,
      hdata, ?_, ?_, isShortest_shortest hunits,
      (Numeral.value_eq_finite_iff hunits).mpr ⟨hsign, hsize ▸ hcoarsest.mem⟩,
      (shortest units).leading, ?_, ?_, ?_, ?_⟩
    · rw [Numeral.exact, Numeral.exact, hsign, hsign', hsize, hsize']
    · rw [Numeral.exact, Numeral.exact, hsign, hsize]
      rfl
    · rw [habs]
      exact hleading.1
    · rw [habs]
      exact hleading.2
    · rw [mem_withSign]
      split at hnotation
      · next hplain => exact iff_of_true hnotation.not_mem hplain
      · next hexp => exact iff_of_false (not_not.mpr hnotation.mem) hexp
    · rw [readSign_withSign hreads]
      exact hnotation
  · intro y b hy hb htext
    have hread := readLenient?_boundText hx hne
    rw [← htext, readLenient?_boundText hy hb] at hread
    exact Option.some.inj hread

/-- A million and more is written with an exponent, with all the digits that data has. -/
theorem boundText_faithful_million :
    (ofRatio true 12345675 10).units? = some (-(2469135 * 2 ^ (1073 : Nat))) ∧
    -(2469135 * 2 ^ (1073 : Nat)) ≠ (0 : Int) ∧
    (ofRatio true 12345675 10).boundText = "-1.2345675e+06".toList ∧
    (ofRatio true 12345675 10).text = "-1234567.5".toList ∧
    IsScientific "1.2345675e+06".toList ∧
    readLenient? "-1.2345675e+06".toList = some (ofRatio true 12345675 10) := by
  have hunits : (ofRatio true 12345675 10).units? = some (-(2469135 * 2 ^ (1073 : Nat))) := by
    decide +kernel
  have hne : -(2469135 * 2 ^ (1073 : Nat)) ≠ (0 : Int) := by decide +kernel
  have htext : (ofRatio true 12345675 10).boundText = "-1.2345675e+06".toList := by decide +kernel
  obtain ⟨⟨-, -, -, -, -, -, -, -, -, power, -, -, hexp, hnotation⟩, hread, -⟩ :=
    boundText_faithful hunits hne
  rw [htext] at hexp hnotation hread
  have hscientific : ¬(-4 ≤ power ∧ power < 6) := mt hexp.mpr (by decide)
  rw [if_neg hscientific] at hnotation
  exact ⟨hunits, hne, htext, by decide +kernel, hnotation, hread⟩

end Binary64
end MetricFrames
