import MetricFrames.Binary64.Shortest

/-!
# Numbers as text

A number is written by its shortest decimal. A style says which magnitudes are written without an
exponent, whether whole numbers keep a point, and how the special values read. `fixedSix` is the
other form: six places after the point, rounded from the exact value.
-/

namespace MetricFrames

namespace Decimal

/-- A decimal without exponent. -/
def plain (d : Decimal) : List Char :=
  let ds := Nat.toDigits 10 d.digits
  if 0 ≤ d.exponent then ds ++ List.replicate d.exponent.toNat '0'
  else
    let places := (-d.exponent).toNat
    if places < ds.length then
      ds.take (ds.length - places) ++ '.' :: ds.drop (ds.length - places)
    else '0' :: '.' :: List.replicate (places - ds.length) '0' ++ ds

/-- The exponent part: its sign and at least two digits. -/
def exponentText (e : Int) : List Char :=
  let ds := Nat.toDigits 10 e.natAbs
  'e' :: (if e < 0 then '-' else '+') :: (if ds.length < 2 then '0' :: ds else ds)

/-- A decimal with one digit before the point and an exponent. -/
def scientific (d : Decimal) : List Char :=
  match Nat.toDigits 10 d.digits with
  | [] => []
  | first :: rest =>
    (if rest.isEmpty then [first] else first :: '.' :: rest) ++ exponentText d.leading

end Decimal

/-- How numbers are written: positional if the leading digit has a power of ten from -4 up to
`positionalBelow`, with `.0` after whole numbers if `wholePoint`, and with these words for the
special values. -/
structure NumberStyle where
  positionalBelow : Int
  wholePoint : Bool
  signedZero : Bool
  nan : String
  infinity : String
  minusInfinity : String

namespace Binary64

/-- The text of a number in a style. -/
def render (style : NumberStyle) : Binary64 → List Char
  | .nan => style.nan.toList
  | .infinite negative => (if negative then style.minusInfinity else style.infinity).toList
  | .finite negative units _ =>
    let d := shortest units
    let whole := style.wholePoint && 0 ≤ d.exponent
    let body :=
      if units = 0 then (if style.wholePoint then ['0', '.', '0'] else ['0'])
      else if -4 ≤ d.leading ∧ d.leading < style.positionalBelow then
        d.plain ++ (if whole then ['.', '0'] else [])
      else d.scientific
    if negative && (units ≠ 0 || style.signedZero) then '-' :: body else body

/-- The style of data: positional below `10^16`, and a point in every positional number. -/
def dataStyle : NumberStyle := ⟨16, true, true, "nan", "inf", "-inf"⟩

/-- The style of bucket bounds: positional below `10^6`, whole numbers without a point. -/
def boundStyle : NumberStyle := ⟨6, false, false, "NaN", "+Inf", "-Inf"⟩

/-- The text of a number in data. -/
def text (x : Binary64) : List Char := x.render dataStyle

/-- The text of a number as a bucket bound. -/
def boundText (x : Binary64) : List Char := x.render boundStyle

/-- Six digits, with zeros in front. -/
def sixDigits (n : Nat) : List Char :=
  let ds := Nat.toDigits 10 n
  List.replicate (6 - ds.length) '0' ++ ds

/-- Six places after the point, rounded from the exact value, a half to the even neighbour. -/
def fixedSix : Binary64 → List Char
  | .nan => ['n', 'a', 'n']
  | .infinite negative => (if negative then ['-'] else []) ++ ['i', 'n', 'f']
  | .finite negative units _ =>
    let millionths := roundHalfEven (units * 1000000) one
    (if negative then ['-'] else []) ++ Nat.toDigits 10 (millionths / 1000000) ++
      '.' :: sixDigits (millionths % 1000000)

end Binary64
end MetricFrames
