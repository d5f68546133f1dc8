import MetricFrames.Binary64.Basic
import MetricFrames.Text.Blank
import MetricFrames.Text.Digit

/-!
# Reading numbers

`Numeral` is the common shape of decimal numbers in texts: digits, perhaps a point and more digits,
perhaps an exponent. `Numeral.value` is the nearest binary64 number. `readLenient?` accepts what a
person may type for a number: blanks around it, digits of any script, single underscores between
digits, and words for the special values.
-/

namespace MetricFrames

-- Powers of naturals are those of the core library, whatever else is in scope.
attribute [local instance (high)] instPowNat

/-- The number `digits * 10 ^ exponent` as a numeral writes it. -/
structure Numeral where
  negative : Bool
  digits : Nat
  exponent : Int

namespace Numeral

/-- The nearest number of the format. Sizes far out of range are decided by the count of digits. -/
def value (n : Numeral) : Binary64 :=
  let top := n.exponent + (Nat.toDigits 10 n.digits).length
  if n.digits = 0 then .zero n.negative
  else if 310 < top then .infinite n.negative
  else if top < -330 then .zero n.negative
  else if 0 ≤ n.exponent then .ofRatio n.negative (n.digits * 10 ^ n.exponent.toNat) 1
  else .ofRatio n.negative n.digits (10 ^ n.exponent.natAbs)

end Numeral

namespace Binary64

/-- The value of digits after a value already read. -/
def digitsFrom (acc : Nat) (ds : List Char) : Nat :=
  ds.foldl (fun acc c => acc * 10 + (c.toNat - 48)) acc

/-- The digits at the start of a text, and the rest. -/
def spanDigits (s : List Char) : List Char × List Char := s.span Char.isDigit

/-- The sign at the start of a text, and the rest. -/
def readSign : List Char → Bool × List Char
  | '-' :: s => (true, s)
  | '+' :: s => (false, s)
  | s => (false, s)

/-- An exponent that ends the text; no exponent is the exponent zero. -/
def readExponent? : List Char → Option Int
  | [] => some 0
  | c :: s =>
    if c = 'e' || c = 'E' then
      let (negative, ds) := readSign s
      if ds.isEmpty || !ds.all Char.isDigit then none
      else
        let e : Int := digitsFrom 0 ds
        some (if negative then -e else e)
    else none

/-- An unsigned decimal numeral: digits, a point, or both, and an optional exponent. -/
def readNumeral? (negative : Bool) (s : List Char) : Option Numeral :=
  let (whole, rest) := spanDigits s
  let (places, rest) :=
    match rest with
    | '.' :: r => spanDigits r
    | r => ([], r)
  if whole.isEmpty && places.isEmpty then none
  else
    (readExponent? rest).map fun e =>
      ⟨negative, digitsFrom (digitsFrom 0 whole) places, e - places.length⟩

/-- The words for infinity and for the not-a-number value, in any case. -/
def readWord? (negative : Bool) (s : List Char) : Option Binary64 :=
  let w := s.map Char.toLower
  if w = "inf".toList || w = "infinity".toList then some (.infinite negative)
  else if w = "nan".toList then some .nan
  else none

/-- A number with an optional sign. -/
def readPlain? (s : List Char) : Option Binary64 :=
  let (negative, body) := readSign s
  (readWord? negative body).orElse fun _ => (readNumeral? negative body).map Numeral.value

/-- Drops each underscore that stands between two digits; any other underscore is an error. -/
def dropUnderscores? (afterDigit : Bool) : List Char → Option (List Char)
  | [] => some []
  | '_' :: c :: s =>
    if afterDigit && c.isDigit then (dropUnderscores? true s).map (c :: ·) else none
  | ['_'] => none
  | c :: s => (dropUnderscores? c.isDigit s).map (c :: ·)

/-- Digits of other scripts as ASCII digits, spaces of other scripts as plain spaces. -/
def plainChar (c : Char) : Char :=
  if c.toNat < 128 then c
  else
    match Text.digitValue? c with
    | some d => Char.ofNat (48 + d)
    | none => if Text.isSpace c then ' ' else c

/-- A number as a person may type it. -/
def readLenient? (s : List Char) : Option Binary64 :=
  (dropUnderscores? false (Text.trimBy Text.isSpace (s.map plainChar))).bind readPlain?

end Binary64
end MetricFrames
