import MetricFrames.Proofs.Text.Utf8
import MetricFrames.Web.Authority
import Mathlib.Data.List.TakeDrop

/-!
# Reading back form encoding

A query in form encoding is cut into named values at `&`, and each of them into name and value at
its first `=`. In both, `+` is a space and a percent sign with two digits is a byte of UTF-8. Named
values are read back as they were written (`formDecode_formEncode`), so form encoding loses nothing
(`formEncode_inj`).
-/

namespace MetricFrames

namespace Text

theorem splitAt_of_not_mem {sep : Char} {piece : List Char} (h : sep ∉ piece) :
    splitAt sep piece = [piece] := by
  induction piece with
  | nil => rfl
  | cons c piece ih =>
    obtain ⟨hc, hpiece⟩ := not_or.mp (List.mem_cons.not.mp h)
    simp [splitAt, ih hpiece, Ne.symm hc]

theorem splitAt_append {sep : Char} {piece : List Char} (h : sep ∉ piece) (rest : List Char) :
    splitAt sep (piece ++ sep :: rest) = piece :: splitAt sep rest := by
  induction piece with
  | nil =>
    cases hrest : splitAt sep rest with
    | nil => exact absurd hrest (splitAt_ne_nil sep rest)
    | cons first others => simp [splitAt, hrest]
  | cons c piece ih =>
    obtain ⟨hc, hpiece⟩ := not_or.mp (List.mem_cons.not.mp h)
    simp [splitAt, ih hpiece, Ne.symm hc]

/-- Pieces without the separator are found again. -/
theorem splitAt_joinWith {sep : Char} {piece : List Char} {pieces : List (List Char)}
    (h : ∀ p ∈ piece :: pieces, sep ∉ p) :
    splitAt sep (joinWith [sep] (piece :: pieces)) = piece :: pieces := by
  induction pieces generalizing piece with
  | nil => exact splitAt_of_not_mem (h piece List.mem_cons_self)
  | cons next pieces ih =>
    have hnext := ih fun p hp => h p (List.mem_cons_of_mem _ hp)
    have hjoin : joinWith [sep] (piece :: next :: pieces) =
        piece ++ sep :: joinWith [sep] (next :: pieces) := by
      simp [joinWith]
    rw [hjoin, splitAt_append (h piece List.mem_cons_self), hnext]

end Text

namespace Web

/-! ### Decoding -/

/-- What a name or a value in form encoding says. -/
def formRead (s : List Char) : List Char :=
  Text.charactersOf (unescape (s.map fun c => if c = '+' then ' ' else c))

/-- A name with its value, which is empty without an equals sign. -/
def formReadPair (s : List Char) : String × String :=
  let (name, value) := cutAt '=' s
  (String.ofList (formRead name), String.ofList (formRead (value.getD [])))

/-- The named values of a query in form encoding. -/
def formDecode (s : List Char) : List (String × String) :=
  ((Text.splitAt '&' s).filter (· ≠ [])).map formReadPair

theorem span_append {c : Char} {front : List Char} (h : c ∉ front) (rest : List Char) :
    (front ++ rest).span (· != c) =
      (front ++ rest.takeWhile (· != c), rest.dropWhile (· != c)) := by
  have hfront : ∀ d ∈ front, (d != c) = true := by
    intro d hd
    refine bne_iff_ne.mpr ?_
    rintro rfl
    exact h hd
  rw [List.span_eq_takeWhile_dropWhile, List.takeWhile_append_of_pos hfront,
    List.dropWhile_append_of_pos hfront]

theorem cutAt_append {c : Char} {front : List Char} (h : c ∉ front) (rest : List Char) :
    cutAt c (front ++ c :: rest) = (front, some rest) := by
  rw [cutAt, span_append h]
  simp

theorem cutAt_of_not_mem {c : Char} {s : List Char} (h : c ∉ s) : cutAt c s = (s, none) := by
  have hspan := span_append h []
  rw [List.append_nil] at hspan
  rw [cutAt, hspan]
  simp

/-! ### The characters of form encoding -/

theorem isAlphanum_bounds {c : Char} (h : c.isAlphanum = true) :
    48 ≤ c.toNat ∧ c.toNat ≤ 122 := by
  have hranges : ((decide ('A'.val ≤ c.val ∧ c.val ≤ 'Z'.val) ||
      decide ('a'.val ≤ c.val) && decide (c.val ≤ 'z'.val)) ||
      decide ('0'.val ≤ c.val) && decide (c.val ≤ '9'.val)) = true := h
  simp only [Bool.or_eq_true, Bool.and_eq_true, decide_eq_true_eq, UInt32.le_iff_toNat_le]
    at hranges
  have hnumbers : ((65 ≤ c.toNat ∧ c.toNat ≤ 90) ∨ 97 ≤ c.toNat ∧ c.toNat ≤ 122) ∨
      48 ≤ c.toNat ∧ c.toNat ≤ 57 := hranges
  omega

theorem isUnreserved_bounds {c : Char} (h : isUnreserved c = true) :
    (32 < c.toNat ∧ c.toNat < 127) ∧ c ≠ '+' ∧ c ≠ '%' := by
  refine ⟨?_, ?_, ?_⟩
  · simp only [isUnreserved, Bool.or_eq_true, beq_iff_eq] at h
    rcases h with (((h | rfl) | rfl) | rfl) | rfl
    · have hbounds := isAlphanum_bounds h
      omega
    all_goals decide
  · rintro rfl
    exact absurd h (by decide)
  · rintro rfl
    exact absurd h (by decide)

theorem isUnreserved_hexDigit {n : Nat} (h : n < 16) :
    isUnreserved (Text.hexDigit n).toUpper = true := by
  have hall : ∀ m : Fin 16, isUnreserved (Text.hexDigit m.val).toUpper = true := by decide
  exact hall ⟨n, h⟩

theorem percentByte_eq (b : UInt8) : percentByte b =
    ['%', (Text.hexDigit (b.toNat / 16 % 16)).toUpper, (Text.hexDigit (b.toNat % 16)).toUpper] :=
  rfl

theorem mem_percentChar {c d : Char} (h : d ∈ percentChar c) :
    isUnreserved d = true ∨ d = '%' := by
  obtain ⟨b, -, hb⟩ := List.mem_flatMap.mp h
  rw [percentByte_eq] at hb
  simp only [List.mem_cons, List.not_mem_nil, or_false] at hb
  rcases hb with rfl | rfl | rfl
  · exact .inr rfl
  · exact .inl (isUnreserved_hexDigit (Nat.mod_lt _ (by decide)))
  · exact .inl (isUnreserved_hexDigit (Nat.mod_lt _ (by decide)))

theorem mem_formChar {c d : Char} (h : d ∈ formChar c) :
    isUnreserved d = true ∨ d ∈ ['+', '%'] := by
  rw [formChar] at h
  split at h
  case isTrue hc => exact .inl (List.mem_singleton.mp h ▸ hc)
  split at h
  case isTrue =>
    rw [List.mem_singleton.mp h]
    exact .inr (by decide)
  case isFalse =>
    rcases mem_percentChar h with hfree | rfl
    · exact .inl hfree
    · exact .inr (by decide)

theorem mem_formText {d : Char} {s : List Char} (h : d ∈ formText s) :
    isUnreserved d = true ∨ d ∈ ['+', '%'] := by
  obtain ⟨c, -, hc⟩ := List.mem_flatMap.mp h
  exact mem_formChar hc

theorem mem_formPair {d : Char} {p : String × String} (h : d ∈ formPair p) :
    isUnreserved d = true ∨ d ∈ ['+', '%', '='] := by
  simp only [formPair, List.mem_append, List.mem_cons] at h
  rcases h with h | rfl | h
  · exact (mem_formText h).imp_right fun hd => List.mem_append_left ['='] hd
  · exact .inr (by decide)
  · exact (mem_formText h).imp_right fun hd => List.mem_append_left ['='] hd

theorem mem_joinWith {c : Char} {sep : List Char} {pieces : List (List Char)}
    (h : c ∈ Text.joinWith sep pieces) : c ∈ sep ∨ ∃ piece ∈ pieces, c ∈ piece := by
  induction pieces with
  | nil => cases h
  | cons piece pieces ih =>
    cases pieces with
    | nil => exact .inr ⟨piece, List.mem_cons_self, h⟩
    | cons next pieces =>
      simp only [Text.joinWith, List.mem_append] at h
      rcases h with (h | h) | h
      · exact .inr ⟨piece, List.mem_cons_self, h⟩
      · exact .inl h
      · rcases ih h with h | ⟨q, hq, hc⟩
        · exact .inl h
        · exact .inr ⟨q, List.mem_cons_of_mem _ hq, hc⟩

theorem mem_formEncode {d : Char} {ps : List (String × String)} (h : d ∈ formEncode ps) :
    isUnreserved d = true ∨ d ∈ ['+', '%', '=', '&'] := by
  rcases mem_joinWith h with h | ⟨piece, hpiece, h⟩
  · rw [List.mem_singleton.mp h]
    exact .inr (by decide)
  · obtain ⟨p, -, rfl⟩ := List.mem_map.mp hpiece
    exact (mem_formPair h).imp_right fun hd => List.mem_append_left ['&'] hd

/-- A character is encoded in four bytes at most, and each of them in three characters. -/
theorem length_formText_le (s : List Char) : (formText s).length ≤ 12 * s.length := by
  have hbytes : ∀ bytes : List UInt8, (bytes.flatMap percentByte).length = 3 * bytes.length := by
    intro bytes
    induction bytes with
    | nil => rfl
    | cons b bytes ih =>
      rw [List.flatMap_cons, List.length_append, ih, percentByte_eq, List.length_cons]
      simp only [List.length_cons, List.length_nil]
      omega
  have hchar : ∀ c, (formChar c).length ≤ 12 := by
    intro c
    have hsize : (String.utf8EncodeChar c).length ≤ 4 := by
      rw [String.length_utf8EncodeChar]
      exact Char.utf8Size_le_four c
    rw [formChar]
    split
    · simp
    · split
      · simp
      · rw [percentChar, hbytes]
        omega
  induction s with
  | nil => exact Nat.le_refl _
  | cons c s ih =>
    have hc := hchar c
    rw [formText, List.flatMap_cons, List.length_append, ← formText, List.length_cons]
    omega

theorem length_formEncode_le (ps : List (String × String)) :
    (formEncode ps).length ≤
      12 * (ps.flatMap fun p => p.1.toList ++ p.2.toList).length + 2 * ps.length := by
  have hpair : ∀ p, (formPair p).length ≤ 12 * (p.1.toList ++ p.2.toList).length + 1 := by
    intro p
    have hname := length_formText_le p.1.toList
    have hvalue := length_formText_le p.2.toList
    rw [formPair, List.length_append, List.length_cons, List.length_append]
    omega
  induction ps with
  | nil => exact Nat.le_refl _
  | cons p ps ih =>
    have hp := hpair p
    rw [List.flatMap_cons, List.length_append, List.length_cons]
    cases ps with
    | nil =>
      simp only [formEncode, List.map_cons, List.map_nil, Text.joinWith, List.flatMap_nil,
        List.length_nil]
      omega
    | cons q ps =>
      simp only [formEncode, List.map_cons, Text.joinWith, List.length_append,
        List.length_singleton] at hp ih ⊢
      omega

/-! ### Reading back -/

theorem unescape_of_ne {c : Char} (hc : c ≠ '%') (s : List Char) :
    unescape (c :: s) = c.toNat :: unescape s := by
  rw [unescape]
  rintro a b s rfl
  exact absurd rfl hc

theorem unescape_percentByte (b : UInt8) (s : List Char) :
    unescape (percentByte b ++ s) = b.toNat :: unescape s := by
  have hb : b.toNat < 256 := b.toNat_lt
  have hhigh := Text.hexValue?_toUpper_hexDigit (Nat.mod_lt (b.toNat / 16) (by decide : 0 < 16))
  have hlow := Text.hexValue?_toUpper_hexDigit (Nat.mod_lt b.toNat (by decide : 0 < 16))
  have hvalue : b.toNat / 16 % 16 * 16 + b.toNat % 16 = b.toNat := by omega
  rw [percentByte_eq]
  simp only [List.cons_append, List.nil_append, unescape, hhigh, hlow, hvalue]

theorem unescape_percentBytes (bytes : List UInt8) (s : List Char) :
    unescape (bytes.flatMap percentByte ++ s) = bytes.map UInt8.toNat ++ unescape s := by
  induction bytes with
  | nil => rfl
  | cons b bytes ih =>
    rw [List.flatMap_cons, List.append_assoc, unescape_percentByte, ih, List.map_cons,
      List.cons_append]

theorem bytesOfChar_of_lt {c : Char} (h : c.toNat < 128) : Text.bytesOfChar c = [c.toNat] := by
  have hval : c.val.toNat = c.toNat := rfl
  have hsmall : c.toNat ≤ 127 := by omega
  have hbyte : c.toNat % 256 = c.toNat := by omega
  simp [Text.bytesOfChar, String.utf8EncodeChar, hval, hsmall, hbyte]

/-- The bytes of an encoded text are those of the text. -/
theorem unescape_formChar (c : Char) (s : List Char) :
    unescape (((formChar c).map fun d => if d = '+' then ' ' else d) ++ s) =
      Text.bytesOfChar c ++ unescape s := by
  rw [formChar]
  split
  case isTrue h =>
    obtain ⟨⟨-, hsmall⟩, hplus, hpercent⟩ := isUnreserved_bounds h
    simp only [List.map_cons, List.map_nil, if_neg hplus, List.cons_append, List.nil_append]
    rw [unescape_of_ne hpercent, bytesOfChar_of_lt (by omega), List.singleton_append]
  split
  case isTrue h =>
    subst h
    rfl
  case isFalse =>
    have hkept : (percentChar c).map (fun d => if d = '+' then ' ' else d) = percentChar c := by
      refine (List.map_congr_left fun d hd => ?_).trans (List.map_id _)
      have hplus : d ≠ '+' := by
        rcases mem_percentChar hd with hfree | rfl
        · exact (isUnreserved_bounds hfree).2.1
        · decide
      exact if_neg hplus
    rw [hkept, percentChar, unescape_percentBytes]
    rfl

theorem unescape_formText (s : List Char) :
    unescape ((formText s).map fun d => if d = '+' then ' ' else d) = Text.bytesOf s := by
  induction s with
  | nil => rfl
  | cons c s ih =>
    rw [formText, List.flatMap_cons, List.map_append, unescape_formChar, ← formText, ih]
    rfl

theorem formRead_formText (s : List Char) : formRead (formText s) = s := by
  rw [formRead, unescape_formText, Text.charactersOf_bytesOf]

theorem formReadPair_formPair (p : String × String) : formReadPair (formPair p) = p := by
  have hequals : '=' ∉ formText p.1.toList := by
    intro h
    rcases mem_formText h with h | h
    · exact absurd h (by decide)
    · exact absurd h (by decide)
  have hcut : cutAt '=' (formPair p) = (formText p.1.toList, some (formText p.2.toList)) :=
    cutAt_append hequals _
  rw [formReadPair, hcut]
  simp only [Option.getD_some, formRead_formText, String.ofList_toList]

/-- Named values in form encoding are read back as they were written. -/
theorem formDecode_formEncode (ps : List (String × String)) : formDecode (formEncode ps) = ps := by
  cases ps with
  | nil => rfl
  | cons p ps =>
    have hpieces : ∀ piece ∈ (p :: ps).map formPair, '&' ∉ piece := by
      intro piece hpiece
      obtain ⟨q, -, rfl⟩ := List.mem_map.mp hpiece
      intro h
      rcases mem_formPair h with h | h
      · exact absurd h (by decide)
      · exact absurd h (by decide)
    have hsplit : Text.splitAt '&' (formEncode (p :: ps)) = (p :: ps).map formPair :=
      Text.splitAt_joinWith hpieces
    have hfull : ((p :: ps).map formPair).filter (· ≠ []) = (p :: ps).map formPair := by
      refine List.filter_eq_self.mpr fun piece hpiece => ?_
      obtain ⟨q, -, rfl⟩ := List.mem_map.mp hpiece
      simp [formPair]
    have hread : ((p :: ps).map formPair).map formReadPair = p :: ps := by
      rw [List.map_map]
      exact (List.map_congr_left fun q _ => formReadPair_formPair q).trans (List.map_id _)
    rw [formDecode, hsplit, hfull, hread]

theorem formEncode_inj {ps qs : List (String × String)} (h : formEncode ps = formEncode qs) :
    ps = qs := by
  rw [← formDecode_formEncode ps, h, formDecode_formEncode]

end Web
end MetricFrames
