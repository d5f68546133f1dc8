/-!
# UTF-8 with errors

Bytes as characters. Bytes that are no character stand for the replacement character: the longest
start of a character that breaks off counts once, any other stray byte for itself.
-/

namespace MetricFrames.Text

/-- What stands for bytes that are no character. -/
def replacement : Char := '\uFFFD'

/-- A character that has begun: the bits so far, how many bytes are missing, and the bounds of the
next one. -/
structure Begun where
  bits : Nat
  missing : Nat
  low : Nat := 0x80
  high : Nat := 0xBF

/-- The character that a byte begins, if it is not one by itself. The bounds of the second byte
leave out what has a shorter form, the halves of pairs and what lies beyond the last code point. -/
def begin? (b : Nat) : Option Begun :=
  if 0xC2 ≤ b ∧ b ≤ 0xDF then some ⟨b - 0xC0, 1, 0x80, 0xBF⟩
  else if 0xE0 ≤ b ∧ b ≤ 0xEF then
    some ⟨b - 0xE0, 2, if b = 0xE0 then 0xA0 else 0x80, if b = 0xED then 0x9F else 0xBF⟩
  else if 0xF0 ≤ b ∧ b ≤ 0xF4 then
    some ⟨b - 0xF0, 3, if b = 0xF0 then 0x90 else 0x80, if b = 0xF4 then 0x8F else 0xBF⟩
  else none

/-- A byte where a character starts: the character if it is one by itself, or what it begins. -/
def startByte (b : Nat) : List Char × Option Begun :=
  if b < 0x80 then ([Char.ofNat b], none)
  else
    match begin? b with
    | some begun => ([], some begun)
    | none => ([replacement], none)

/-- The characters of bytes, of which one may have begun. -/
def charactersFrom : Option Begun → List Nat → List Char
  | none, [] => []
  | some _, [] => [replacement]
  | none, b :: s =>
    let (cs, begun) := startByte b
    cs ++ charactersFrom begun s
  | some g, b :: s =>
    if g.low ≤ b ∧ b ≤ g.high then
      let bits := g.bits * 64 + (b - 0x80)
      if g.missing ≤ 1 then Char.ofNat bits :: charactersFrom none s
      else charactersFrom (some { bits := bits, missing := g.missing - 1 }) s
    else
      let (cs, begun) := startByte b
      replacement :: cs ++ charactersFrom begun s

/-- The characters of bytes. -/
def charactersOf (bytes : List Nat) : List Char := charactersFrom none bytes

example : charactersOf [0x61, 0xC3, 0xA9, 0xE2, 0x98, 0x62, 0xFF] =
    ['a', 'é', replacement, 'b', replacement] := by decide

end MetricFrames.Text
