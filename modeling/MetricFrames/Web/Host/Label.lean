import MetricFrames.Text.Search
import MetricFrames.Web.Host.Joining
import MetricFrames.Web.Host.Letters
import MetricFrames.Web.Host.Punycode

/-!
# Host names beyond ASCII

A host name is a list of labels. One with characters beyond ASCII is sent in ASCII: each label has
to be admissible and is written in Punycode after a mark. A label in ASCII stays as it is, but it
has to be admissible too; if it bears the mark, the label it stands for has to be.
-/

namespace MetricFrames.Web.Host

/-- The mark of a label in Punycode. -/
def asciiMark : List Char := "xn--".toList

/-- The longest label. -/
def maxLabel : Nat := 63

/-- The longest host name, and one longer with a dot at its end. -/
def maxName (dotAtEnd : Bool) : Nat := if dotAtEnd then 254 else 253

/-- Whether every character may stand where it does; `before` is given from its end. -/
def lettersStand (before : List Nat) : List Nat → Bool
  | [] => true
  | n :: s => (isLetter n || isAdmitted before n s) && lettersStand (n :: before) s

/-- Whether hyphens stand neither at an end nor in the third and fourth place. -/
def hyphensStand (s : List Nat) : Bool :=
  s.head? != some 45 && s.getLast? != some 45 && (s.drop 2).take 2 != [45, 45]

/-- Whether a label may be part of a host name. -/
def isAdmissible (s : List Nat) : Bool :=
  !s.isEmpty && s.length ≤ maxName true && hyphensStand s && !s.head?.any isMark &&
    lettersStand [] s && Text.isComposed s && isOrdered (s.map direction)

/-- A label in ASCII, if it may be part of a host name. -/
def labelCode? (label : List Char) : Option (List Char) :=
  let s := label.map Char.toNat
  let code :=
    if s.all (· < 128) then
      if asciiMark.isPrefixOf label then
        let rest := label.drop asciiMark.length
        if rest.getLast?.all (· == '-') then none
        else (Punycode.decode rest).bind fun s => if isAdmissible s then some label else none
      else if isAdmissible s then some label else none
    else if isAdmissible s then some (asciiMark ++ Punycode.encode s)
    else none
  code.filter (·.length ≤ maxLabel)

/-- The dots between labels. -/
def isDot (c : Char) : Bool := ['.', '。', '．', '｡'].contains c

/-- The labels of a host name. -/
def labels : List Char → List (List Char)
  | [] => [[]]
  | c :: s =>
    if isDot c then [] :: labels s
    else
      match labels s with
      | [] => [[c]]
      | label :: rest => (c :: label) :: rest

/-- The codes of labels, if all have one. -/
def labelCodes? : List (List Char) → Option (List (List Char))
  | [] => some []
  | label :: rest =>
    (labelCode? label).bind fun code => (labelCodes? rest).map (code :: ·)

/-- A host name in small letters as ASCII, if it may be one. -/
def nameCode? (name : List Char) : Option (List Char) :=
  let all := labels name
  let dotAtEnd := all.getLast? == some []
  if maxName true < name.length ∨ all = [[]] then none
  else
    (labelCodes? (if dotAtEnd then all.dropLast else all)).bind fun codes =>
      let code := Text.joinWith ['.'] (if dotAtEnd then codes ++ [[]] else codes)
      if code.length ≤ maxName dotAtEnd then some code else none

end MetricFrames.Web.Host
