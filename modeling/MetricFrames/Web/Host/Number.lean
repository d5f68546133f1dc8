import MetricFrames.Text.Hex
import MetricFrames.Text.Search

/-!
# Numeric hosts

A host may be a number: four bytes in decimal with dots between them, or eight pairs of bytes in
hexadecimal with colons between them, of which one run of zeros may be left out.
-/

namespace MetricFrames.Web.Host

/-- A byte in decimal, without needless zeros. -/
def isByte (s : List Char) : Bool :=
  !s.isEmpty && s.all Char.isDigit && s.length ≤ 3 && (s == ['0'] || s.head? != some '0') &&
    s.foldl (fun n c => n * 10 + (c.toNat - 48)) 0 ≤ 255

/-- Four bytes with dots. -/
def isDotted (s : List Char) : Bool :=
  let bytes := Text.splitAt '.' s
  bytes.length == 4 && bytes.all isByte

/-- Up to four hexadecimal digits. -/
def isPair (s : List Char) : Bool :=
  !s.isEmpty && s.length ≤ 4 && s.all fun c => (Text.hexValue? c).isSome

/-- How many pairs a number with colons has. -/
def pairCount : Nat := 8

/-- Whether the parts between colons make up a number. Empty parts inside stand for the zeros left
out; there is at most one, and beside it one at either end. -/
def arePairs (parts : List (List Char)) : Bool :=
  let inside := (parts.drop 1).dropLast
  match (inside.filter (·.isEmpty)).length with
  | 0 => parts.length == pairCount && parts.all isPair
  | 1 =>
    let front := parts.take (1 + inside.findIdx (·.isEmpty))
    let back := parts.drop (2 + inside.findIdx (·.isEmpty))
    let given (side : List (List Char)) : List (List Char) :=
      if side = [[]] then [] else side
    let pairs := given front ++ given back
    pairs.length < pairCount && pairs.all isPair
  | _ => false

/-- A number with colons. The last two pairs may be written with dots, and a zone may follow. -/
def isColoned (s : List Char) : Bool :=
  let (number, zone) := s.span (· != '%')
  let parts := Text.splitAt ':' number
  let last := parts.getLast?.getD []
  let zoneStands :=
    match zone with
    | [] => true
    | _ :: name => !name.isEmpty && !name.contains '%'
  !s.contains '/' && zoneStands && 3 ≤ parts.length &&
    (if last.contains '.' then isDotted last && arePairs (parts.dropLast ++ [['0'], ['0']])
      else arePairs parts)

/-- How far a text looks like a number with dots: how many separators were seen, and whether the
last character was a digit of the group that follows. -/
abbrev Groups := Nat × Bool

/-- One more character: a digit goes on with the group, and any character may end it. -/
def Groups.step (seen : List Groups) (c : Char) : List Groups :=
  (seen.flatMap fun (separators, inGroup) =>
    (if c.isDigit then [(separators, true)] else []) ++
      (if inGroup && separators < 3 then [(separators + 1, false)] else [])).eraseDups

/-- Whether a text is four groups of digits with any character between them. All numbers with dots
are, and much else. -/
def looksDotted (s : List Char) : Bool := (s.foldl Groups.step [(0, false)]).contains (3, true)

end MetricFrames.Web.Host
