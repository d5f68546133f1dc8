/-!
# Hexadecimal digits

Fixed-width hexadecimal numbers, the shape in which escapes name a byte or a code point.
`readHex?_hex` says that reading gives back what was written.
-/

namespace MetricFrames.Text

-- Powers of naturals are those of the core library, whatever else is in scope.
attribute [local instance (high)] instPowNat

/-- The sixteen digits with small letters. -/
def hexDigit (n : Nat) : Char :=
  if n < 10 then Char.ofNat (48 + n) else Char.ofNat (87 + n)

/-- The last `width` digits of a number. -/
def hex : (width : Nat) → (n : Nat) → List Char
  | 0, _ => []
  | width + 1, n => hex width (n / 16) ++ [hexDigit (n % 16)]

/-- The same with capital letters. -/
def hexUpper (width n : Nat) : List Char := (hex width n).map Char.toUpper

/-- The value of a hexadecimal digit, in small or capital letters. -/
def hexValue? (c : Char) : Option Nat :=
  if '0' ≤ c ∧ c ≤ '9' then some (c.toNat - 48)
  else if 'a' ≤ c ∧ c ≤ 'f' then some (c.toNat - 87)
  else if 'A' ≤ c ∧ c ≤ 'F' then some (c.toNat - 55)
  else none

/-- Reads digits after a value already read. -/
def readHexFrom? (acc : Nat) : List Char → Option Nat
  | [] => some acc
  | c :: s => (hexValue? c).bind fun d => readHexFrom? (acc * 16 + d) s

/-- Reads a hexadecimal number. -/
def readHex? (s : List Char) : Option Nat := readHexFrom? 0 s

theorem length_hex (width n : Nat) : (hex width n).length = width := by
  induction width generalizing n with
  | zero => rfl
  | succ width ih => simp [hex, ih]

theorem hexValue?_hexDigit {n : Nat} (h : n < 16) : hexValue? (hexDigit n) = some n := by
  have : ∀ m : Fin 16, hexValue? (hexDigit m.val) = some m.val := by decide
  exact this ⟨n, h⟩

theorem hexValue?_toUpper_hexDigit {n : Nat} (h : n < 16) :
    hexValue? (hexDigit n).toUpper = some n := by
  have : ∀ m : Fin 16, hexValue? (hexDigit m.val).toUpper = some m.val := by decide
  exact this ⟨n, h⟩

theorem readHexFrom?_append (acc : Nat) (s : List Char) (c : Char) :
    readHexFrom? acc (s ++ [c]) =
      (readHexFrom? acc s).bind fun m => (hexValue? c).map fun d => m * 16 + d := by
  induction s generalizing acc with
  | nil => cases h : hexValue? c <;> simp [readHexFrom?, h]
  | cons x s ih => cases h : hexValue? x <;> simp [readHexFrom?, h, ih]

theorem readHex?_hex {width n : Nat} (h : n < 16 ^ width) : readHex? (hex width n) = some n := by
  induction width generalizing n with
  | zero => simp only [Nat.pow_zero, Nat.lt_one_iff] at h; subst h; rfl
  | succ width ih =>
    have hd : n / 16 < 16 ^ width := by
      rw [Nat.div_lt_iff_lt_mul (by decide)]; rwa [Nat.pow_succ] at h
    have := ih hd
    simp only [readHex?] at this ⊢
    rw [hex, readHexFrom?_append, this]
    simp only [Option.bind_some, hexValue?_hexDigit (Nat.mod_lt n (by decide)), Option.map_some]
    congr 1; omega

theorem readHex?_hexUpper {width n : Nat} (h : n < 16 ^ width) :
    readHex? (hexUpper width n) = some n := by
  induction width generalizing n with
  | zero => simp only [Nat.pow_zero, Nat.lt_one_iff] at h; subst h; rfl
  | succ width ih =>
    have hd : n / 16 < 16 ^ width := by
      rw [Nat.div_lt_iff_lt_mul (by decide)]; rwa [Nat.pow_succ] at h
    have := ih hd
    simp only [readHex?, hexUpper] at this ⊢
    rw [hex, List.map_append, List.map_singleton, readHexFrom?_append, this]
    simp only [Option.bind_some, hexValue?_toUpper_hexDigit (Nat.mod_lt n (by decide)),
      Option.map_some]
    congr 1; omega

end MetricFrames.Text
