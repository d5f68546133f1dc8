import MetricFrames.Text.Utf8

/-!
# Reading back UTF-8

The bytes of a text are read as that text (`charactersOf_bytesOf`). A character of several bytes is
followed byte by byte: the first one says how many are missing and bounds the second one
(`charactersFrom_first`), and bits collect until the last byte has come (`charactersFrom_last`).
-/

namespace MetricFrames.Text

/-- The bytes of a character. -/
def bytesOfChar (c : Char) : List Nat := (String.utf8EncodeChar c).map UInt8.toNat

/-- The bytes of a text. -/
def bytesOf (s : List Char) : List Nat := s.flatMap bytesOfChar

variable {b n : Nat} {g : Begun}

theorem charactersFrom_one (hb : b < 0x80) (s : List Nat) :
    charactersFrom none (b :: s) = Char.ofNat b :: charactersFrom none s := by
  simp [charactersFrom, startByte, hb]

theorem charactersFrom_first (hb : 0x80 ≤ b) (hg : begin? b = some g) (s : List Nat) :
    charactersFrom none (b :: s) = charactersFrom (some g) s := by
  have hlarge : ¬b < 0x80 := by omega
  simp [charactersFrom, startByte, hlarge, hg]

theorem charactersFrom_next (hb : g.low ≤ b ∧ b ≤ g.high) (hg : 1 < g.missing) (s : List Nat) :
    charactersFrom (some g) (b :: s) =
      charactersFrom (some ⟨g.bits * 64 + (b - 0x80), g.missing - 1, 0x80, 0xBF⟩) s := by
  have hmissing : ¬g.missing ≤ 1 := by omega
  simp [charactersFrom, hb, hmissing]

theorem charactersFrom_last (hb : g.low ≤ b ∧ b ≤ g.high) (hg : g.missing ≤ 1) (s : List Nat) :
    charactersFrom (some g) (b :: s) =
      Char.ofNat (g.bits * 64 + (b - 0x80)) :: charactersFrom none s := by
  simp [charactersFrom, hb, hg]

/-! ### Characters of several bytes -/

theorem charactersFrom_two (hlow : 0x80 ≤ n) (hhigh : n ≤ 0x7FF) (s : List Nat) :
    charactersFrom none ((n / 64 % 32 + 192) :: (n % 64 + 128) :: s) =
      Char.ofNat n :: charactersFrom none s := by
  have hbegin : begin? (n / 64 % 32 + 192) = some ⟨n / 64, 1, 0x80, 0xBF⟩ := by
    have hbits : n / 64 % 32 + 192 - 0xC0 = n / 64 := by omega
    rw [begin?, if_pos (by omega), hbits]
  have hvalue : n / 64 * 64 + (n % 64 + 128 - 0x80) = n := by omega
  rw [charactersFrom_first (by omega) hbegin,
    charactersFrom_last (by dsimp only; omega) (Nat.le_refl 1)]
  dsimp only
  rw [hvalue]

theorem charactersFrom_three (hlow : 0x7FF < n) (hhigh : n ≤ 0xFFFF)
    (hwhole : n < 0xD800 ∨ 0xDFFF < n) (s : List Nat) :
    charactersFrom none
        ((n / 4096 % 16 + 224) :: (n / 64 % 64 + 128) :: (n % 64 + 128) :: s) =
      Char.ofNat n :: charactersFrom none s := by
  have hbegin : begin? (n / 4096 % 16 + 224) =
      some ⟨n / 4096, 2, if n / 4096 % 16 + 224 = 0xE0 then 0xA0 else 0x80,
        if n / 4096 % 16 + 224 = 0xED then 0x9F else 0xBF⟩ := by
    have hbits : n / 4096 % 16 + 224 - 0xE0 = n / 4096 := by omega
    rw [begin?, if_neg (by omega), if_pos (by omega), hbits]
  have hvalue : (n / 4096 * 64 + (n / 64 % 64 + 128 - 0x80)) * 64 + (n % 64 + 128 - 0x80) = n := by
    omega
  rw [charactersFrom_first (by omega) hbegin,
    charactersFrom_next (by dsimp only; split <;> split <;> omega) (by decide : (1 : Nat) < 2),
    charactersFrom_last (by dsimp only; omega) (Nat.le_refl 1)]
  dsimp only
  rw [hvalue]

theorem charactersFrom_four (hlow : 0xFFFF < n) (hhigh : n < 0x110000) (s : List Nat) :
    charactersFrom none ((n / 262144 % 8 + 240) :: (n / 4096 % 64 + 128) :: (n / 64 % 64 + 128) ::
        (n % 64 + 128) :: s) =
      Char.ofNat n :: charactersFrom none s := by
  have hbegin : begin? (n / 262144 % 8 + 240) =
      some ⟨n / 262144, 3, if n / 262144 % 8 + 240 = 0xF0 then 0x90 else 0x80,
        if n / 262144 % 8 + 240 = 0xF4 then 0x8F else 0xBF⟩ := by
    have hbits : n / 262144 % 8 + 240 - 0xF0 = n / 262144 := by omega
    rw [begin?, if_neg (by omega), if_neg (by omega), if_pos (by omega), hbits]
  have hvalue : ((n / 262144 * 64 + (n / 4096 % 64 + 128 - 0x80)) * 64 +
      (n / 64 % 64 + 128 - 0x80)) * 64 + (n % 64 + 128 - 0x80) = n := by omega
  rw [charactersFrom_first (by omega) hbegin,
    charactersFrom_next (by dsimp only; split <;> split <;> omega) (by decide : (1 : Nat) < 3),
    charactersFrom_next (by dsimp only; omega) (by decide : (1 : Nat) < 2),
    charactersFrom_last (by dsimp only; omega) (Nat.le_refl 1)]
  dsimp only
  rw [hvalue]

/-! ### Texts -/

theorem charactersFrom_bytesOfChar (c : Char) (s : List Nat) :
    charactersFrom none (bytesOfChar c ++ s) = c :: charactersFrom none s := by
  -- No character is half of a pair, and the last one has the code point 0x10FFFF.
  have hvalid : c.toNat < 0xD800 ∨ (0xDFFF < c.toNat ∧ c.toNat < 0x110000) := c.valid
  have hc : Char.ofNat c.toNat = c := Char.ofNat_toNat c
  have hval : c.val.toNat = c.toNat := rfl
  have hbyte : ∀ m : Nat, m < 256 → (UInt8.ofNat m).toNat = m := by
    intro m hm
    rw [UInt8.toNat_ofNat', Nat.mod_eq_of_lt hm]
  simp only [bytesOfChar, String.utf8EncodeChar, hval]
  generalize c.toNat = n at hvalid hc
  split
  case isTrue h =>
    simp only [List.map_cons, List.map_nil, List.cons_append, List.nil_append]
    rw [hbyte _ (by omega), charactersFrom_one (by omega), hc]
  split
  case isTrue h =>
    simp only [List.map_cons, List.map_nil, List.cons_append, List.nil_append]
    rw [hbyte _ (by omega), hbyte _ (by omega), charactersFrom_two (by omega) h, hc]
  split
  case isTrue h =>
    simp only [List.map_cons, List.map_nil, List.cons_append, List.nil_append]
    rw [hbyte _ (by omega), hbyte _ (by omega), hbyte _ (by omega),
      charactersFrom_three (by omega) h (by omega), hc]
  case isFalse h =>
    simp only [List.map_cons, List.map_nil, List.cons_append, List.nil_append]
    rw [hbyte _ (by omega), hbyte _ (by omega), hbyte _ (by omega), hbyte _ (by omega),
      charactersFrom_four (by omega) (by omega), hc]

/-- The bytes of a text are read as that text. -/
theorem charactersOf_bytesOf (s : List Char) : charactersOf (bytesOf s) = s := by
  induction s with
  | nil => rfl
  | cons c s ih =>
    rw [charactersOf, bytesOf, List.flatMap_cons, charactersFrom_bytesOfChar, ← bytesOf,
      ← charactersOf, ih]

end MetricFrames.Text
