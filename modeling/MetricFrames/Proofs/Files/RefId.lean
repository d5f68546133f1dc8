import MetricFrames.Files.RefId
import Mathlib.Data.List.Shortlex
import Mathlib.Data.Set.Card
import Mathlib.Order.Interval.Finset.Nat

/-!
# Generated names in order

The letters of a name are the digits from 1 to 26 of a number in base 26 (`countFrom`). There is no
letter for zero, so every number but zero is written in exactly one way, and the names of the
positions are all texts of capital letters, ordered by length and then by the alphabet
(`ofIndex_enumerates`).
-/

namespace MetricFrames.RefId

/-! ### What letters count for -/

/-- What letters count for, after higher ones that count for `high`: they are the digits from 1 to
26 in base 26. -/
def countFrom (high : Nat) (letters : List Char) : Nat :=
  letters.foldl (fun count c => letterCount * count + (c.toNat - 64)) high

theorem countFrom_nil (high : Nat) : countFrom high [] = high := rfl

theorem countFrom_cons (high : Nat) (c : Char) (letters : List Char) :
    countFrom high (c :: letters) = countFrom (letterCount * high + (c.toNat - 64)) letters := by
  simp only [countFrom, List.foldl_cons]

theorem countFrom_append (high : Nat) (front letters : List Char) :
    countFrom high (front ++ letters) = countFrom (countFrom high front) letters :=
  List.foldl_append

theorem toNat_letter : ∀ k < letterCount, (letter k).toNat = 65 + k := by decide

theorem countFrom_letter_cons (high k : Nat) (hk : k < letterCount) (written : List Char) :
    countFrom high (letter k :: written) = countFrom (letterCount * high + (k + 1)) written := by
  have hdigit : 65 + k - 64 = k + 1 := by omega
  rw [countFrom_cons, toNat_letter k hk, hdigit]

/-- The letters that are written in front of others count for the position and one more. -/
theorem countFrom_lettersBefore (n : Nat) (written : List Char) :
    countFrom 0 (lettersBefore n written) = countFrom (n + 1) written := by
  induction n, written using lettersBefore.induct with
  | case1 n written hlt =>
    rw [lettersBefore, if_pos hlt, countFrom_letter_cons 0 _ (Nat.mod_lt n (by decide)),
      Nat.mod_eq_of_lt hlt, Nat.mul_zero, Nat.zero_add]
  | case2 n written _ hge ih =>
    have hsplit : letterCount * (n / letterCount) + n % letterCount = n := Nat.div_add_mod n _
    have hpos : 0 < n / letterCount := Nat.div_pos (Nat.le_of_not_lt hge) (by decide)
    rw [lettersBefore, if_neg hge]
    refine ih.trans ?_
    rw [Nat.sub_add_cancel hpos, countFrom_letter_cons _ _ (Nat.mod_lt n (by decide)),
      ← Nat.add_assoc, hsplit]

theorem countFrom_ofIndex (n : Nat) : countFrom 0 (ofIndex n).toList = n + 1 := by
  rw [ofIndex, String.toList_ofList, countFrom_lettersBefore]
  rfl

theorem ofIndex_injective {m n : Nat} (h : ofIndex m = ofIndex n) : m = n := by
  have hcount := congrArg (fun s : String => countFrom 0 s.toList) h
  simp only [countFrom_ofIndex] at hcount
  omega

/-! ### The names -/

def IsLetter (c : Char) : Prop := 'A' ≤ c ∧ c ≤ 'Z'

theorem isLetter_iff {c : Char} : IsLetter c ↔ 65 ≤ c.toNat ∧ c.toNat ≤ 90 := by
  unfold IsLetter
  rw [Char.le_def, Char.le_def, UInt32.le_iff_toNat_le, UInt32.le_iff_toNat_le]
  rfl

theorem isLetter_letter {k : Nat} (hk : k < letterCount) : IsLetter (letter k) := by
  have hnat := toNat_letter k hk
  unfold letterCount at hk
  rw [isLetter_iff]
  omega

theorem letter_toNat_sub {c : Char} (h : IsLetter c) : letter (c.toNat - 65) = c := by
  have hbounds := isLetter_iff.mp h
  have hcode : 65 + (c.toNat - 65) = c.toNat := by omega
  rw [letter, hcode, Char.ofNat_toNat]

theorem isLetter_of_mem_lettersBefore {n : Nat} {written : List Char}
    (h : ∀ c ∈ written, IsLetter c) : ∀ c ∈ lettersBefore n written, IsLetter c := by
  have hletter : ∀ n, IsLetter (letter (n % letterCount)) :=
    fun n => isLetter_letter (Nat.mod_lt n (by decide))
  induction n, written using lettersBefore.induct with
  | case1 n written hlt =>
    rw [lettersBefore, if_pos hlt]
    exact List.forall_mem_cons.mpr ⟨hletter n, h⟩
  | case2 n written _ hge ih =>
    rw [lettersBefore, if_neg hge]
    exact ih (List.forall_mem_cons.mpr ⟨hletter n, h⟩)

theorem le_countFrom (high : Nat) (letters : List Char) : high ≤ countFrom high letters := by
  induction letters generalizing high with
  | nil => exact Nat.le_refl high
  | cons c letters ih =>
    have hstep := ih (letterCount * high + (c.toNat - 64))
    rw [countFrom_cons]
    unfold letterCount at hstep ⊢
    omega

theorem countFrom_pos {letters : List Char} (hne : letters ≠ [])
    (h : ∀ c ∈ letters, IsLetter c) : 0 < countFrom 0 letters := by
  cases letters with
  | nil => exact absurd rfl hne
  | cons c letters =>
    have hc := isLetter_iff.mp (h c List.mem_cons_self)
    have hstep := le_countFrom (letterCount * 0 + (c.toNat - 64)) letters
    rw [countFrom_cons]
    omega

/-- The letters of what letters count for are the letters themselves. -/
theorem lettersBefore_countFrom {letters : List Char} (hne : letters ≠ [])
    (h : ∀ c ∈ letters, IsLetter c) (written : List Char) :
    lettersBefore (countFrom 0 letters - 1) written = letters ++ written := by
  -- From the last letter on: it is the remainder, and the letters before it count for the quotient.
  induction letters using List.reverseRecOn generalizing written with
  | nil => exact absurd rfl hne
  | append_singleton front c ih =>
    have hfront : ∀ d ∈ front, IsLetter d := fun d hd => h d (List.mem_append_left [c] hd)
    have hletter : IsLetter c := h c (List.mem_append_right front List.mem_cons_self)
    have hbounds := isLetter_iff.mp hletter
    have hcount : countFrom 0 (front ++ [c]) - 1 = letterCount * countFrom 0 front +
        (c.toNat - 65) := by
      rw [countFrom_append, countFrom_cons, countFrom_nil]
      omega
    have hmod : (countFrom 0 (front ++ [c]) - 1) % letterCount = c.toNat - 65 := by
      unfold letterCount at hcount ⊢
      omega
    rw [lettersBefore, hmod, letter_toNat_sub hletter]
    by_cases hnil : front = []
    · have hlt : countFrom 0 (front ++ [c]) - 1 < letterCount := by
        rw [hcount, hnil, countFrom_nil]
        unfold letterCount
        omega
      rw [if_pos hlt, hnil]
      rfl
    · have hpos := countFrom_pos hnil hfront
      have hge : ¬ countFrom 0 (front ++ [c]) - 1 < letterCount := by
        unfold letterCount at hcount ⊢
        omega
      have hdiv : (countFrom 0 (front ++ [c]) - 1) / letterCount = countFrom 0 front := by
        unfold letterCount at hcount ⊢
        omega
      rw [if_neg hge, hdiv, ih hnil hfront, List.append_assoc]
      rfl

/-- A text of capital letters. -/
def IsName (s : String) : Prop := s ≠ "" ∧ ∀ c ∈ s.toList, IsLetter c

theorem isName_ofIndex (n : Nat) : IsName (ofIndex n) := by
  constructor
  · intro h
    have hcount := countFrom_ofIndex n
    rw [h] at hcount
    exact absurd hcount (Nat.succ_ne_zero n).symm
  · rw [ofIndex, String.toList_ofList]
    exact isLetter_of_mem_lettersBefore (by simp)

theorem exists_ofIndex {s : String} (h : IsName s) : ∃ n, ofIndex n = s := by
  have hne : s.toList ≠ [] := fun hnil => h.1 (String.toList_eq_nil_iff.mp hnil)
  refine ⟨countFrom 0 s.toList - 1, ?_⟩
  rw [ofIndex, lettersBefore_countFrom hne h.2, List.append_nil, String.ofList_toList]

/-! ### The order of names -/

section Order

variable {high high' : Nat} {letters letters' : List Char}

/-- A digit is never more than the base, so higher letters decide. -/
theorem countFrom_lt (hlen : letters.length = letters'.length) (h : ∀ c ∈ letters, IsLetter c)
    (h' : ∀ c ∈ letters', IsLetter c) (hlt : high < high') :
    countFrom high letters < countFrom high' letters' := by
  induction letters generalizing high high' letters' with
  | nil =>
    have hnil : letters' = [] := List.length_eq_zero_iff.mp hlen.symm
    rw [hnil, countFrom_nil, countFrom_nil]
    exact hlt
  | cons c letters ih =>
    cases letters' with
    | nil => cases hlen
    | cons d letters' =>
      have hc := isLetter_iff.mp (h c List.mem_cons_self)
      have hd := isLetter_iff.mp (h' d List.mem_cons_self)
      have hstep : letterCount * high + (c.toNat - 64) < letterCount * high' + (d.toNat - 64) := by
        unfold letterCount
        omega
      rw [countFrom_cons, countFrom_cons]
      exact ih (Nat.succ.inj hlen) (fun e he => h e (List.mem_cons_of_mem c he))
        (fun e he => h' e (List.mem_cons_of_mem d he)) hstep

theorem countFrom_lt_of_lex (hlex : List.Lex (· < ·) letters letters')
    (hlen : letters.length = letters'.length) (h : ∀ c ∈ letters, IsLetter c)
    (h' : ∀ c ∈ letters', IsLetter c) : countFrom high letters < countFrom high letters' := by
  induction hlex generalizing high with
  | nil => cases hlen
  | cons _ ih =>
    exact ih (Nat.succ.inj hlen) (fun e he => h e (List.mem_cons_of_mem _ he))
      (fun e he => h' e (List.mem_cons_of_mem _ he))
  | @rel c _ d _ hlt =>
    have hc := isLetter_iff.mp (h c List.mem_cons_self)
    have hcode : c.toNat < d.toNat := hlt
    rw [countFrom_cons, countFrom_cons]
    refine countFrom_lt (Nat.succ.inj hlen) (fun e he => h e (List.mem_cons_of_mem _ he))
      (fun e he => h' e (List.mem_cons_of_mem _ he)) ?_
    omega

theorem countFrom_lt_of_shortlex (hshort : List.Shortlex (· < ·) letters letters')
    (h : ∀ c ∈ letters, IsLetter c) (h' : ∀ c ∈ letters', IsLetter c) :
    countFrom 0 letters < countFrom 0 letters' := by
  rcases List.shortlex_def.mp hshort with hlen | ⟨hlen, hlex⟩
  · -- A longer name has letters in front of as many as the shorter one, and they count for one at
    -- least.
    obtain ⟨front, rest, rfl, hrest⟩ : ∃ front rest, letters' = front ++ rest ∧
        letters.length = rest.length := by
      refine ⟨_, _, (List.take_append_drop (letters'.length - letters.length) letters').symm, ?_⟩
      rw [List.length_drop]
      omega
    have hfront : front ≠ [] := by
      rintro rfl
      exact absurd hrest (Nat.ne_of_lt hlen)
    have hpos := countFrom_pos hfront fun e he => h' e (List.mem_append_left rest he)
    rw [countFrom_append]
    exact countFrom_lt hrest h (fun e he => h' e (List.mem_append_right front he)) hpos
  · exact countFrom_lt_of_lex hlex hlen h h'

end Order

/-- Shorter texts come first, and texts of one length in alphabetical order. -/
def Precedes (s t : String) : Prop := List.Shortlex (· < ·) s.toList t.toList

theorem precedes_ofIndex_iff (m n : Nat) : Precedes (ofIndex m) (ofIndex n) ↔ m < n := by
  have hlt : ∀ {m n : Nat}, Precedes (ofIndex m) (ofIndex n) → m < n := by
    intro m n hshort
    have hcount := countFrom_lt_of_shortlex hshort (isName_ofIndex m).2 (isName_ofIndex n).2
    rw [countFrom_ofIndex, countFrom_ofIndex] at hcount
    omega
  refine ⟨hlt, fun h => ?_⟩
  by_contra hnot
  have hsame : (ofIndex m).toList = (ofIndex n).toList := by
    refine Std.Trichotomous.trichotomous (r := List.Shortlex (· < ·)) _ _ hnot fun hback => ?_
    exact absurd (hlt hback) (Nat.not_lt_of_gt h)
  have hmn := ofIndex_injective (String.toList_injective hsame)
  omega

/-- The names of the positions are exactly the texts of capital letters, each for one position, in
the order of texts; so as many of them come before the name of a position as positions do. -/
theorem ofIndex_enumerates :
    Set.BijOn ofIndex Set.univ {s | IsName s} ∧
    (∀ m n, Precedes (ofIndex m) (ofIndex n) ↔ m < n) ∧
    ∀ n, {s | IsName s ∧ Precedes s (ofIndex n)}.ncard = n := by
  refine ⟨⟨fun n _ => isName_ofIndex n, fun m _ n _ h => ofIndex_injective h, fun s hs => ?_⟩,
    precedes_ofIndex_iff, fun n => ?_⟩
  · obtain ⟨n, hn⟩ := exists_ofIndex hs
    exact ⟨n, Set.mem_univ n, hn⟩
  · have hbefore : {s | IsName s ∧ Precedes s (ofIndex n)} = ofIndex '' Set.Iio n := by
      ext s
      constructor
      · rintro ⟨hs, hprecedes⟩
        obtain ⟨m, rfl⟩ := exists_ofIndex hs
        exact ⟨m, (precedes_ofIndex_iff m n).mp hprecedes, rfl⟩
      · rintro ⟨m, hm, rfl⟩
        exact ⟨isName_ofIndex m, (precedes_ofIndex_iff m n).mpr hm⟩
    rw [hbefore, Set.ncard_image_of_injective _ fun m n h => ofIndex_injective h,
      Set.ncard_eq_toFinset_card', Set.toFinset_Iio, Nat.card_Iio]

end MetricFrames.RefId
