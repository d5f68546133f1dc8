import MetricFrames.Proofs.Binary64.Shortest
import MetricFrames.Proofs.Binary64.Written

/-!
# Written numbers

In every style the text of a finite number other than zero is its sign and the text of its shortest
decimal (`render_finite`), and this is read as a numeral of the same value (`reads_sizeText`).
-/

namespace MetricFrames

-- Powers of naturals are those of the core library, whatever else is in scope.
attribute [local instance (high)] instPowNat

namespace Binary64

variable {whole places body ds : List Char} {q : ℚ} {d : Decimal}

/-! ### Digits around a point -/

/-- Digits before and after a point that have a given value. -/
structure Spells (whole places : List Char) (q : ℚ) : Prop where
  ne_nil : whole ≠ []
  before : IsDigits whole
  after : IsDigits places
  value : (digitsFrom 0 (whole ++ places) : ℚ) * 10 ^ (-(places.length : ℤ)) = q

/-- No zeros in front other than a single one, and none at the end of the places. -/
def IsTidy (whole places : List Char) : Prop :=
  (whole = ['0'] ∨ whole.head? ≠ some '0') ∧ places.getLast? ≠ some '0'

theorem spells_zeros (hne : ds ≠ []) (hds : IsDigits ds) (k : Nat) :
    Spells (ds ++ List.replicate k '0') [] (digitsFrom 0 ds * 10 ^ (k : ℤ)) := by
  refine ⟨List.append_ne_nil_of_left_ne_nil hne _, ?_, List.forall_mem_nil _, ?_⟩
  · exact isDigits_append.mpr ⟨hds, isDigits_replicate_zero k⟩
  · rw [List.append_nil, digitsFrom_append, digitsFrom_replicate_zero, Nat.cast_mul,
      ten_zpow_natCast, List.length_nil, Nat.cast_zero, neg_zero, zpow_zero, mul_one]

theorem spells_leading_zeros (hds : IsDigits ds) {k : Nat} (hk : ds.length ≤ k) :
    Spells ['0'] (List.replicate (k - ds.length) '0' ++ ds)
      (digitsFrom 0 ds * 10 ^ (-(k : ℤ))) := by
  have hlength : (List.replicate (k - ds.length) '0' ++ ds).length = k := by
    rw [List.length_append, List.length_replicate]
    omega
  refine ⟨List.cons_ne_nil _ _, isDigits_replicate_zero 1, ?_, ?_⟩
  · exact isDigits_append.mpr ⟨isDigits_replicate_zero _, hds⟩
  · rw [hlength, List.singleton_append, digitsFrom_zero_cons, digitsFrom_append,
      digitsFrom_replicate_zero, Nat.zero_mul]

theorem spells_cut (hds : IsDigits ds) {k : Nat} (hk : k < ds.length) :
    Spells (ds.take (ds.length - k)) (ds.drop (ds.length - k))
      (digitsFrom 0 ds * 10 ^ (-(k : ℤ))) := by
  have hsplit := List.take_append_drop (ds.length - k) ds
  have hlength : (ds.drop (ds.length - k)).length = k := by
    rw [List.length_drop]
    omega
  have htake : ds.take (ds.length - k) ≠ [] := by
    rw [← List.length_pos_iff, List.length_take]
    omega
  refine ⟨htake, fun c hc => hds c (List.mem_of_mem_take hc),
    fun c hc => hds c (List.mem_of_mem_drop hc), ?_⟩
  rw [hsplit, hlength]

theorem Spells.point_zero (h : Spells whole [] q) : Spells whole ['0'] q := by
  refine ⟨h.ne_nil, h.before, isDigits_replicate_zero 1, ?_⟩
  have hvalue := h.value
  have hzero := digitsFrom_replicate_zero (digitsFrom 0 whole) 1
  rw [List.append_nil, List.length_nil, Nat.cast_zero, neg_zero, zpow_zero, mul_one] at hvalue
  rw [List.replicate_one] at hzero
  rw [digitsFrom_append, ← hvalue, hzero]
  simp

/-! ### Plain notation -/

/-- The digits of a decimal in plain notation, around its point. A decimal with places has no more
zeros than it needs. -/
theorem plain_spells (d : Decimal) : ∃ whole places, d.plain = pointed whole places ∧
    Spells whole places d.exact ∧ (0 ≤ d.exponent → places = []) ∧
    (d.digits % 10 ≠ 0 → IsTidy whole places) := by
  have hds := isDigits_toDigits d.digits
  have hvalue := digitsFrom_toDigits d.digits
  have hne : Nat.toDigits 10 d.digits ≠ [] := Nat.toDigits_ne_nil
  have hends : d.digits % 10 ≠ 0 → _ := ends_toDigits
  simp only [Decimal.plain]
  generalize Nat.toDigits 10 d.digits = ds at *
  split
  · next hexp =>
    have hcast : (d.exponent.toNat : ℤ) = d.exponent := Int.toNat_of_nonneg hexp
    have hspells := spells_zeros hne hds d.exponent.toNat
    rw [hvalue, hcast] at hspells
    refine ⟨_, [], rfl, hspells, fun _ => rfl, ?_⟩
    intro h
    refine ⟨.inr ?_, by simp⟩
    rw [List.head?_append_of_ne_nil ds hne]
    exact (hends h).1
  · next hneg =>
    have hcast : ((-d.exponent).toNat : ℤ) = -d.exponent := Int.toNat_of_nonneg (by omega)
    split
    · next hlong =>
      have hspells := spells_cut hds hlong
      rw [hvalue, hcast, neg_neg] at hspells
      have hplaces : ds.drop (ds.length - (-d.exponent).toNat) ≠ [] := by
        rw [← List.length_pos_iff, List.length_drop]
        omega
      refine ⟨_, _, by rw [pointed, if_neg hplaces], hspells, ?_, ?_⟩
      · intro h
        exact absurd h hneg
      · intro h
        rw [IsTidy, List.head?_take, List.getLast?_drop, if_neg (by omega), if_neg (by omega)]
        exact ⟨.inr (hends h).1, (hends h).2⟩
    · next hshort =>
      have hspells := spells_leading_zeros hds (Nat.not_lt.mp hshort)
      rw [hvalue, hcast, neg_neg] at hspells
      have hzeros : List.replicate ((-d.exponent).toNat - ds.length) '0' ++ ds ≠ [] :=
        List.append_ne_nil_of_right_ne_nil _ hne
      refine ⟨['0'], _, ?_, hspells, ?_, ?_⟩
      · rw [pointed, if_neg hzeros]
        rfl
      · intro h
        exact absurd h hneg
      · intro h
        rw [IsTidy, List.getLast?_append_of_ne_nil _ hne]
        exact ⟨.inl rfl, (hends h).2⟩

/-! ### With an exponent -/

theorem scientific_spells (d : Decimal) : ∃ first places,
    d.scientific = pointed [first] places ++ Decimal.exponentText d.leading ∧
    Spells [first] places (d.digits * 10 ^ (1 - d.length : ℤ)) ∧
    (d.digits % 10 ≠ 0 → first ≠ '0' ∧ places.getLast? ≠ some '0') := by
  have hds := isDigits_toDigits d.digits
  have hvalue := digitsFrom_toDigits d.digits
  have hends : d.digits % 10 ≠ 0 → _ := ends_toDigits
  have hne : Nat.toDigits 10 d.digits ≠ [] := Nat.toDigits_ne_nil
  obtain ⟨first, places, hsplit⟩ := List.exists_cons_of_ne_nil hne
  rw [hsplit] at hds hvalue hends
  obtain ⟨hfirst, hplaces⟩ := List.forall_mem_cons.mp hds
  refine ⟨first, places, ?_, ⟨List.cons_ne_nil _ _, ?_, hplaces, ?_⟩, ?_⟩
  · simp only [Decimal.scientific, hsplit, pointed]
    cases places with
    | nil => rfl
    | cons c places => rfl
  · exact List.forall_mem_singleton.mpr hfirst
  · have hlength : (1 : ℤ) - d.length = -(places.length : ℤ) := by
      rw [Decimal.length, hsplit, List.length_cons]
      omega
    rw [List.singleton_append, hvalue, hlength]
  · intro h
    refine ⟨fun hzero => (hends h).1 (by rw [hzero]; rfl), ?_⟩
    cases places with
    | nil => simp
    | cons c places => exact (hends h).2

/-! ### Reading it back -/

/-- An unsigned text that is read as a number of a given size. -/
structure Reads (body : List Char) (q : ℚ) : Prop where
  written : IsWritten body
  head : ∃ c rest, body = c :: rest ∧ c.isDigit = true
  numeral : ∀ negative, ∃ n, readNumeral? negative body = some n ∧ n.negative = negative ∧
    n.magnitude = q

theorem isWritten_pointed (h : Spells whole places q) : IsWritten (pointed whole places) := by
  have hwhole := IsDigits.isWritten h.before
  unfold pointed
  split
  · exact hwhole
  · have hplaces := IsDigits.isWritten h.after
    exact List.forall_mem_append.mpr ⟨hwhole, List.forall_mem_cons.mpr ⟨.inr (.inl rfl), hplaces⟩⟩

theorem Spells.reads {tail : List Char} {e : ℤ} (h : Spells whole places q)
    (hexp : readExponent? tail = some e) (hwritten : IsWritten tail)
    (htail : ∀ c, tail.head? = some c → c.isDigit = false ∧ c ≠ '.') :
    Reads (pointed whole places ++ tail) (q * 10 ^ e) := by
  refine ⟨List.forall_mem_append.mpr ⟨isWritten_pointed h, hwritten⟩, ?_, ?_⟩
  · obtain ⟨first, rest, hfirst⟩ := List.exists_cons_of_ne_nil h.ne_nil
    refine ⟨first, (pointed whole places ++ tail).tail, ?_, h.before first (by simp [hfirst])⟩
    rw [hfirst]
    unfold pointed
    split <;> rfl
  · intro negative
    refine ⟨⟨negative, digitsFrom 0 (whole ++ places), e - places.length⟩, ?_, rfl, ?_⟩
    · rw [readNumeral?_pointed negative h.ne_nil h.before h.after htail, hexp]
      rfl
    · rw [← h.value, Numeral.magnitude, sub_eq_add_neg, ten_zpow_add]
      ring

theorem Spells.reads_pointed (h : Spells whole places q) : Reads (pointed whole places) q := by
  have hreads : Reads (pointed whole places ++ []) (q * 10 ^ (0 : ℤ)) :=
    h.reads rfl (List.forall_mem_nil _) (by simp)
  rwa [List.append_nil, zpow_zero, mul_one] at hreads

theorem reads_scientific (d : Decimal) : Reads d.scientific d.exact := by
  obtain ⟨first, places, htext, hspells, -⟩ := scientific_spells d
  obtain ⟨power, hpower, hdigits, -, -⟩ := exponentText_eq d.leading
  have hwritten : IsWritten (Decimal.exponentText d.leading) := by
    have hdigits' : IsWritten power := IsDigits.isWritten hdigits
    rw [hpower]
    refine List.forall_mem_cons.mpr ⟨by simp, List.forall_mem_cons.mpr ⟨?_, hdigits'⟩⟩
    split <;> simp
  have htail : ∀ c, (Decimal.exponentText d.leading).head? = some c →
      c.isDigit = false ∧ c ≠ '.' := by
    rw [hpower]
    rintro c ⟨⟩
    exact ⟨rfl, by decide⟩
  have hreads := hspells.reads (readExponent?_exponentText d.leading) hwritten htail
  have hexp : (1 - d.length : ℤ) + d.leading = d.exponent := by
    rw [Decimal.leading]
    omega
  rw [mul_assoc, ← ten_zpow_add, hexp] at hreads
  rw [htext]
  exact hreads

/-- The text of a size in a style. -/
def sizeText (style : NumberStyle) (d : Decimal) : List Char :=
  if -4 ≤ d.leading ∧ d.leading < style.positionalBelow then
    d.plain ++ (if style.wholePoint && 0 ≤ d.exponent then ['.', '0'] else [])
  else d.scientific

theorem reads_sizeText (style : NumberStyle) (d : Decimal) : Reads (sizeText style d) d.exact := by
  obtain ⟨whole, places, hplain, hspells, hwhole, -⟩ := plain_spells d
  unfold sizeText
  split
  · split
    · next hpoint =>
      have hexp : 0 ≤ d.exponent := by
        rw [Bool.and_eq_true, decide_eq_true_eq] at hpoint
        exact hpoint.2
      obtain rfl := hwhole hexp
      have hreads := hspells.point_zero.reads_pointed
      rw [hplain]
      exact hreads
    · rw [hplain, List.append_nil]
      exact hspells.reads_pointed
  · exact reads_scientific d

/-- A sign in front, if the number is negative. -/
def withSign (negative : Bool) (body : List Char) : List Char :=
  if negative then '-' :: body else body

variable {negative : Bool} {units : Nat} {fits : Fits units}

theorem render_finite (style : NumberStyle) (hunits : 0 < units) :
    (finite negative units fits).render style =
      withSign negative (sizeText style (shortest units)) := by
  have hne : units ≠ 0 := hunits.ne'
  simp [render, hne, withSign, sizeText]

theorem readSign_withSign (h : Reads body q) :
    readSign (withSign negative body) = (negative, body) := by
  obtain ⟨c, rest, rfl, hdigit⟩ := h.head
  cases negative with
  | true => rfl
  | false =>
    simp only [withSign, Bool.false_eq_true, if_false]
    rw [readSign]
    · rintro _ ⟨⟩
      exact absurd hdigit (by decide)
    · rintro _ ⟨⟩
      exact absurd hdigit (by decide)

theorem readWord?_eq_none (h : Reads body q) : readWord? negative body = none := by
  obtain ⟨c, rest, rfl, hdigit⟩ := h.head
  have hlower : c.toLower = c := by
    have hrange : 48 ≤ c.toNat ∧ c.toNat ≤ 57 := Char.isDigit_iff_toNat.mp hdigit
    have hupper : ¬(c.val ≥ 'A'.val ∧ c.val ≤ 'Z'.val) := by
      intro h
      have hle : 65 ≤ c.toNat := UInt32.le_iff_toNat_le.mp h.1
      omega
    exact dif_neg hupper
  have hword : ∀ w : List Char, (∀ d, w.head? = some d → d.isDigit = false) →
      (c :: rest).map Char.toLower ≠ w := by
    rintro w hw rfl
    have hletter := hw c.toLower rfl
    rw [hlower, hdigit] at hletter
    cases hletter
  have hinf := hword "inf".toList (by rintro d ⟨⟩; rfl)
  have hinfinity := hword "infinity".toList (by rintro d ⟨⟩; rfl)
  have hnan := hword "nan".toList (by rintro d ⟨⟩; rfl)
  simp only [readWord?, hinf, hinfinity, hnan, decide_false, Bool.or_false, Bool.false_eq_true,
    if_false]

theorem readLenient?_withSign {n : Numeral} (h : Reads body q)
    (hn : readNumeral? negative body = some n) :
    readLenient? (withSign negative body) = some n.value := by
  have hwritten : IsWritten (withSign negative body) := by
    unfold withSign
    split
    · exact List.forall_mem_cons.mpr ⟨by simp, h.written⟩
    · exact h.written
  rw [readLenient?_eq hwritten, readPlain?, readSign_withSign h]
  simp only [readWord?_eq_none h, hn]
  rfl

end Binary64
end MetricFrames
