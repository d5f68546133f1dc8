import Mathlib.Data.List.TakeDrop
import MetricFrames.Binary64.Text
import MetricFrames.Proofs.Binary64.Numerals
import MetricFrames.Proofs.Text.Trimming

/-!
# Reading written decimals

A decimal is written as digits with a point or as one digit with an exponent. What is written is
read as a numeral of the same value (`readNumeral?_pointed`, `readExponent?_exponentText`), and a
text without blanks and underscores is read as it stands (`readLenient?_eq`).
-/

namespace MetricFrames

-- Powers of naturals are those of the core library, whatever else is in scope.
attribute [local instance (high)] instPowNat

/-- Only decimal digits. -/
def IsDigits (s : List Char) : Prop := ∀ c ∈ s, c.isDigit = true

/-- Digits, and after a point more of them, if there are any. -/
def pointed (whole places : List Char) : List Char :=
  if places = [] then whole else whole ++ '.' :: places

variable {s t whole places : List Char} {n k acc : Nat} {e : Int}

theorem isDigits_append : IsDigits (s ++ t) ↔ IsDigits s ∧ IsDigits t := List.forall_mem_append

theorem isDigits_replicate_zero (k : Nat) : IsDigits (List.replicate k '0') := by
  intro c hc
  rw [List.eq_of_mem_replicate hc]
  rfl

theorem isDigits_toDigits (n : Nat) : IsDigits (Nat.toDigits 10 n) :=
  fun _ hc => Nat.isDigit_of_mem_toDigits (by decide) (by decide) hc

/-! ### The first and the last digit -/

theorem digitChar_eq_zero_iff (h : n < 10) : n.digitChar = '0' ↔ n = 0 := by
  have hall : ∀ i : Fin 10, i.val.digitChar = '0' ↔ i.val = 0 := by decide
  exact hall ⟨n, h⟩

theorem getLast?_toDigits (h : n % 10 ≠ 0) : (Nat.toDigits 10 n).getLast? ≠ some '0' := by
  have hlast : (Nat.toDigits 10 n).getLast? = some (n % 10).digitChar := by
    rcases Nat.lt_or_ge n 10 with hlt | hge
    · rw [Nat.toDigits_of_lt_base hlt, Nat.mod_eq_of_lt hlt]
      rfl
    · rw [Nat.toDigits_of_base_le (by decide) hge, List.getLast?_concat]
  rw [hlast, ne_eq, Option.some.injEq, digitChar_eq_zero_iff (Nat.mod_lt n (by decide))]
  exact h

namespace Binary64

/-! ### The value of digits -/

theorem digitsFrom_eq (acc : Nat) (s : List Char) :
    digitsFrom acc s = Nat.ofDigitChars 10 s acc := by
  unfold digitsFrom Nat.ofDigitChars
  congr 1
  funext acc c
  rw [Nat.mul_comm]
  rfl

theorem digitsFrom_append (acc : Nat) (s t : List Char) :
    digitsFrom acc (s ++ t) = digitsFrom (digitsFrom acc s) t := List.foldl_append

theorem digitsFrom_toDigits (n : Nat) : digitsFrom 0 (Nat.toDigits 10 n) = n := by
  rw [digitsFrom_eq, Nat.ofDigitChars_toDigits (by decide) (by decide)]

theorem digitsFrom_replicate_zero (acc k : Nat) :
    digitsFrom acc (List.replicate k '0') = acc * 10 ^ k := by
  rw [digitsFrom_eq, Nat.ofDigitChars_replicate_zero, Nat.mul_comm]

theorem digitsFrom_zero_cons (s : List Char) : digitsFrom 0 ('0' :: s) = digitsFrom 0 s := rfl

theorem digitsFrom_lt (h : IsDigits s) (acc : Nat) :
    digitsFrom acc s < (acc + 1) * 10 ^ s.length := by
  induction s generalizing acc with
  | nil =>
    simp [digitsFrom]
  | cons c s ih =>
    obtain ⟨hc, hs⟩ := List.forall_mem_cons.mp h
    have hstep : digitsFrom acc (c :: s) = digitsFrom (acc * 10 + (c.toNat - 48)) s := rfl
    have hrange : 48 ≤ c.toNat ∧ c.toNat ≤ 57 := Char.isDigit_iff_toNat.mp hc
    have hle : (acc * 10 + (c.toNat - 48) + 1) * 10 ^ s.length ≤
        (acc + 1) * 10 * 10 ^ s.length := Nat.mul_le_mul_right _ (by omega)
    rw [hstep, List.length_cons, Nat.pow_succ', ← Nat.mul_assoc]
    exact Nat.lt_of_lt_of_le (ih hs _) hle

theorem head?_toDigits (h : n ≠ 0) : (Nat.toDigits 10 n).head? ≠ some '0' := by
  intro hzero
  obtain ⟨rest, hdigits⟩ := List.head?_eq_some_iff.mp hzero
  have hvalue : digitsFrom 0 rest = n := by
    rw [← digitsFrom_zero_cons, ← hdigits, digitsFrom_toDigits]
  have hrest : IsDigits rest := by
    have hall := isDigits_toDigits n
    rw [hdigits] at hall
    exact (List.forall_mem_cons.mp hall).2
  have hlt := digitsFrom_lt hrest 0
  have hle := ten_pow_length_le h
  rw [hdigits, List.length_cons, Nat.add_sub_cancel] at hle
  omega

theorem ends_toDigits (h : n % 10 ≠ 0) : (Nat.toDigits 10 n).head? ≠ some '0' ∧
    (Nat.toDigits 10 n).getLast? ≠ some '0' :=
  ⟨head?_toDigits (by omega), getLast?_toDigits h⟩

/-! ### Reading -/

theorem spanDigits_append (hs : IsDigits s) (ht : ∀ c, t.head? = some c → c.isDigit = false) :
    spanDigits (s ++ t) = (s, t) := by
  have hnone : t.takeWhile Char.isDigit = [] := by
    cases t with
    | nil => rfl
    | cons c t => rw [List.takeWhile_cons, ht c rfl, if_neg Bool.false_ne_true]
  rw [spanDigits, List.span_eq_takeWhile_dropWhile, List.takeWhile_append_of_pos hs,
    List.dropWhile_append_of_pos hs, hnone, Text.dropWhile_eq_self ht, List.append_nil]

/-- Digits with a point are read as the value of all digits, scaled by the count of the places. -/
theorem readNumeral?_pointed (negative : Bool) (hwhole : whole ≠ []) (hdigits : IsDigits whole)
    (hplaces : IsDigits places) (ht : ∀ c, t.head? = some c → c.isDigit = false ∧ c ≠ '.') :
    readNumeral? negative (pointed whole places ++ t) = (readExponent? t).map fun e =>
      ⟨negative, digitsFrom 0 (whole ++ places), e - places.length⟩ := by
  have hend : ∀ c, t.head? = some c → c.isDigit = false := fun c hc => (ht c hc).1
  unfold readNumeral?
  by_cases hnone : places = []
  · rw [pointed, if_pos hnone, hnone, spanDigits_append hdigits hend, List.append_nil]
    simp only
    split
    · exact absurd rfl (ht '.' rfl).2
    · simp [hwhole, digitsFrom]
  · rw [pointed, if_neg hnone, List.append_assoc, List.cons_append,
      spanDigits_append hdigits (by rintro c ⟨⟩; rfl)]
    simp only
    rw [spanDigits_append hplaces hend]
    simp [hwhole, digitsFrom_append]

theorem exponentText_eq (e : Int) : ∃ power, Decimal.exponentText e =
      'e' :: (if e < 0 then '-' else '+') :: power ∧
    IsDigits power ∧ 2 ≤ power.length ∧ digitsFrom 0 power = e.natAbs := by
  have hdigits := isDigits_toDigits e.natAbs
  have hvalue := digitsFrom_toDigits e.natAbs
  have hpos : 0 < (Nat.toDigits 10 e.natAbs).length := Nat.length_toDigits_pos
  refine ⟨_, rfl, ?_⟩
  split
  · refine ⟨List.forall_mem_cons.mpr ⟨rfl, hdigits⟩, ?_, hvalue⟩
    rw [List.length_cons]
    omega
  · exact ⟨hdigits, by omega, hvalue⟩

theorem readExponent?_exponentText (e : Int) : readExponent? (Decimal.exponentText e) = some e := by
  obtain ⟨power, htext, hdigits, hlength, hvalue⟩ := exponentText_eq e
  have hne : power.isEmpty = false := by
    cases power with
    | nil => cases hlength
    | cons c power => rfl
  have hall : power.all Char.isDigit = true := List.all_eq_true.mpr hdigits
  rw [htext, readExponent?]
  by_cases he : e < 0
  · rw [if_pos he]
    simp [readSign, hne, hall, hvalue, abs_of_neg he]
  · rw [if_neg he]
    simp [readSign, hne, hall, hvalue, abs_of_nonneg (not_lt.mp he)]

/-! ### Texts without blanks -/

/-- The characters of written numbers. -/
def IsWritten (s : List Char) : Prop :=
  ∀ c ∈ s, c.isDigit = true ∨ c = '.' ∨ c = 'e' ∨ c = '+' ∨ c = '-'

theorem IsDigits.isWritten (h : IsDigits s) : IsWritten s := fun c hc => .inl (h c hc)

theorem dropUnderscores?_eq_some (h : '_' ∉ s) (afterDigit : Bool) :
    dropUnderscores? afterDigit s = some s := by
  induction s generalizing afterDigit with
  | nil => rfl
  | cons c s ih =>
    obtain ⟨hc, hs⟩ := not_or.mp (List.mem_cons.not.mp h)
    rw [dropUnderscores?, ih hs]
    · rfl
    · rintro _ _ rfl
      exact absurd rfl hc
    · rintro rfl
      exact absurd rfl hc

theorem readLenient?_eq (h : IsWritten s) : readLenient? s = readPlain? s := by
  have hplain : ∀ c ∈ s, plainChar c = c ∧ Text.isSpace c = false ∧ '_' ≠ c := by
    intro c hc
    rcases h c hc with hdigit | rfl | rfl | rfl | rfl
    · have hrange : 48 ≤ c.toNat ∧ c.toNat ≤ 57 := Char.isDigit_iff_toNat.mp hdigit
      refine ⟨by rw [plainChar, if_pos (by omega)], ?_, ?_⟩
      · simp only [Text.isSpace, Text.isBlank, Bool.and_eq_false_iff, Bool.or_eq_false_iff,
          decide_eq_false_iff_not, beq_eq_false_iff_ne]
        omega
      · rintro rfl
        exact absurd hrange.2 (by decide)
    all_goals exact ⟨by decide, by decide, by decide⟩
  have hmap : s.map plainChar = s := by
    rw [List.map_congr_left fun c hc => (hplain c hc).1]
    exact List.map_id' s
  have htrim : Text.trimBy Text.isSpace s = s :=
    Text.trimBy_eq_self (fun c hc => (hplain c (List.mem_of_mem_head? hc)).2.1)
      fun c hc => (hplain c (List.mem_of_mem_getLast? hc)).2.1
  have hunderscore : '_' ∉ s := fun hc => (hplain '_' hc).2.2 rfl
  rw [readLenient?, hmap, htrim, dropUnderscores?_eq_some hunderscore]
  rfl

end Binary64
end MetricFrames
