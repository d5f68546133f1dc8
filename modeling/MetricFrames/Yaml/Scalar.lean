import MetricFrames.Text.Hex
import MetricFrames.Text.Search
import MetricFrames.Yaml.Node
import MetricFrames.Yaml.Place

/-!
# YAML scalars

Scalars are written plain, between single or double quotes, or as a block of lines. Line breaks are
folded except in literal blocks. Inside brackets and braces a plain scalar also ends at the marks of
the flow style.
-/

namespace MetricFrames.Yaml

/-- A scalar that was read, whether it goes over a line break, and the rest of the text. -/
structure ScalarReading where
  scalar : Scalar
  multiline : Bool
  rest : List Char

/-! ### Plain scalars -/

/-- The marks of the flow style that end a plain scalar. -/
def flowMarks : List Char := [',', '[', ']', '\x7b', '\x7d']

/-- The characters that do not start a plain scalar. -/
def indicators : List Char :=
  flowMarks ++ ['-', '?', ':', '#', '&', '*', '!', '|', '>', '\'', '"', '%', '@', Char.ofNat 96]

/-- Whether a plain scalar starts here. -/
def startsPlain (flow : Bool) : List Char → Bool
  | [] => false
  | c :: s =>
    if isBlankChar c then false
    else if indicators.contains c then
      !endsToken s && (c == '-' || (!flow && (c == '?' || c == ':')))
    else true

/-- Whether a colon before this text separates a key from its value. -/
def colonSeparates (flow : Bool) : List Char → Bool
  | [] => true
  | c :: _ => isBlankChar c || (flow && flowMarks.contains c)

/-- Whether a word of a plain scalar ends here. -/
def endsWord (flow : Bool) : List Char → Bool
  | [] => true
  | c :: s =>
    isBlankChar c || (c == ':' && colonSeparates flow s) ||
      (flow && (c == '?' || flowMarks.contains c))

/-- A word of a plain scalar and the rest. -/
def plainWord (flow : Bool) : List Char → List Char × List Char
  | [] => ([], [])
  | c :: s =>
    if endsWord flow (c :: s) then ([], c :: s)
    else
      let (word, rest) := plainWord flow s
      (c :: word, rest)

/-- Whether a plain scalar goes on after some blanks: not without blanks, not with a comment, and
outside the flow style not on a line that starts before the column `least`. -/
def goesOn (flow : Bool) (least : Nat) (f : Fold) : Bool :=
  !f.text.isEmpty && f.next.rest.head? != some '#' &&
    !(f.crossed && !flow && f.next.column < least)

/-- Reads a plain scalar word by word. `sofar` is the reading up to the last word. -/
def plainFrom (flow : Bool) (least : Nat) :
    (fuel : Nat) → (sofar : ScalarReading) → (fill : Fold) → ScalarReading
  | 0, sofar, _ => sofar
  | fuel + 1, sofar, fill =>
    match plainWord flow fill.next.rest with
    | ([], _) => sofar
    | (word, rest) =>
      let read : ScalarReading :=
        ⟨⟨sofar.scalar.text ++ fill.text ++ word, true⟩, sofar.multiline || fill.crossed, rest⟩
      let next := foldBlanks (· == ' ') rest
      if goesOn flow least next then plainFrom flow least fuel read next else read

/-- Reads the plain scalar that starts here. -/
def readPlain (flow : Bool) (least : Nat) (s : List Char) : ScalarReading :=
  plainFrom flow least s.length ⟨⟨[], true⟩, false, s⟩ ⟨[], false, .inside s⟩

/-! ### Quoted scalars -/

/-- The characters that an escape of one letter stands for. -/
def escapes : List (Char × Nat) := [
  ('0', 0), ('a', 7), ('b', 8), ('t', 9), ('\t', 9), ('n', 10), ('v', 11), ('f', 12), ('r', 13),
  ('e', 27), (' ', 32), ('"', 34), ('\\', 92), ('/', 47), ('N', 0x85), ('_', 0xA0), ('L', 0x2028),
  ('P', 0x2029)]

/-- How many digits an escape by code point has. -/
def codeWidth? (c : Char) : Option Nat :=
  if c = 'x' then some 2 else if c = 'u' then some 4 else if c = 'U' then some 8 else none

/-- Reads an escape after its backslash: the character and the rest. -/
def readEscape? : List Char → Option (Char × List Char)
  | [] => none
  | c :: s =>
    match codeWidth? c with
    | some width =>
      let digits := s.take width
      if digits.length < width then none
      else
        (Text.readHex? digits).bind fun n =>
          if n.isValidChar then some (Char.ofNat n, s.drop width) else none
    | none => (escapes.find? fun e => e.1 == c).map fun e => (Char.ofNat e.2, s)

/-- Reads a quoted scalar up to its closing quote. `done` holds what was read, last character
first. -/
def quotedFrom (double : Bool) :
    (fuel : Nat) → (done : List Char) → (multiline : Bool) → List Char → Option ScalarReading
  | 0, _, _, _ => none
  | _ + 1, _, _, [] => none
  | fuel + 1, done, multiline, c :: s =>
    if isBlankChar c then
      let fold := foldBlanks (fun c => c == ' ' || c == '\t') (c :: s)
      quotedFrom double fuel (fold.text.reverse ++ done) (multiline || fold.crossed) fold.next.rest
    else if double then
      if c = '"' then some ⟨⟨done.reverse, false⟩, multiline, s⟩
      else if c = '\\' then
        match s with
        | '\n' :: s =>
          let (breaks, next) := countBreaks (fun c => c == ' ' || c == '\t') 0 0 s
          quotedFrom double fuel (List.replicate breaks '\n' ++ done) true next.rest
        | s =>
          match readEscape? s with
          | some (e, rest) => quotedFrom double fuel (e :: done) multiline rest
          | none => none
      else quotedFrom double fuel (c :: done) multiline s
    else if c = '\'' then
      match s with
      | '\'' :: s => quotedFrom double fuel ('\'' :: done) multiline s
      | s => some ⟨⟨done.reverse, false⟩, multiline, s⟩
    else quotedFrom double fuel (c :: done) multiline s

/-- Reads the plain or quoted scalar that starts here. -/
def readScalar? (flow : Bool) (least : Nat) : List Char → Option ScalarReading
  | '\'' :: s => quotedFrom false (s.length + 1) [] false s
  | '"' :: s => quotedFrom true (s.length + 1) [] false s
  | s => if startsPlain flow s then some (readPlain flow least s) else none

/-- The longest text of a key. -/
def maxKeyLength : Nat := 1024

/-- What follows the colon if a scalar that started at `start` is a key: it stands on one line with
its colon. -/
def ScalarReading.afterKey? (r : ScalarReading) (flow : Bool) (start : List Char) :
    Option (List Char) :=
  match r.rest.dropWhile (· == ' ') with
  | ':' :: s =>
    if !r.multiline && (flow || endsToken s) && start.length - s.length ≤ maxKeyLength + 1 then
      some s
    else none
  | _ => none

/-! ### Blocks of lines -/

/-- What happens to the line breaks at the end of a block. -/
inductive Chomping where
  | clip | strip | keep
  deriving DecidableEq

/-- The header of a block: what happens at its end, and by how much it is indented if that is
given. -/
structure BlockHeader where
  chomping : Chomping := .clip
  increment : Option Nat := none

/-- Reads the indicators of a header, each at most once and in any order. -/
def readIndicators : List Char → BlockHeader × List Char
  | c :: s =>
    match chomping? c, increment? c with
    | some chomping, _ =>
      match s with
      | d :: t =>
        match increment? d with
        | some n => (⟨chomping, some n⟩, t)
        | none => (⟨chomping, none⟩, d :: t)
      | [] => (⟨chomping, none⟩, [])
    | none, some n =>
      match s with
      | d :: t =>
        match chomping? d with
        | some chomping => (⟨chomping, some n⟩, t)
        | none => (⟨.clip, some n⟩, d :: t)
      | [] => (⟨.clip, some n⟩, [])
    | none, none => ({}, c :: s)
  | [] => ({}, [])
where
  /-- The chomping of an indicator. -/
  chomping? (c : Char) : Option Chomping :=
    if c = '+' then some .keep else if c = '-' then some .strip else none
  /-- The indentation of an indicator. -/
  increment? (c : Char) : Option Nat :=
    if '1' ≤ c ∧ c ≤ '9' then some (c.toNat - 48) else none

/-- Reads a header up to the end of its line; only a comment may follow it. -/
def readHeader? (s : List Char) : Option (BlockHeader × List Char) :=
  let (header, rest) := readIndicators s
  let comment := rest.dropWhile (· == ' ')
  let spaced := comment.length < rest.length
  match comment with
  | [] => some (header, [])
  | '\n' :: lines => some (header, lines)
  | '#' :: text => if spaced then some (header, (text.dropWhile (· != '\n')).drop 1) else none
  | _ => none

/-- A line and whether a line break ends it. -/
structure Line where
  text : List Char
  ended : Bool

/-- The lines of a text. -/
def linesOf : List Char → List Line
  | [] => []
  | c :: s =>
    if c = '\n' then ⟨[], true⟩ :: linesOf s
    else
      match linesOf s with
      | [] => [⟨[c], false⟩]
      | line :: lines => { line with text := c :: line.text } :: lines

/-- The text of lines. -/
def textOf (lines : List Line) : List Char :=
  lines.flatMap fun l => l.text ++ if l.ended then ['\n'] else []

theorem textOf_linesOf (s : List Char) : textOf (linesOf s) = s := by
  induction s with
  | nil => rfl
  | cons c s ih =>
    simp only [linesOf]
    split
    · next h => simp only [textOf, List.flatMap_cons] at ih ⊢; simp [ih, h]
    · split
      · next h => rw [h] at ih; simpa [textOf] using ih
      · next line lines h =>
        rw [h] at ih
        simp only [textOf, List.flatMap_cons, List.cons_append] at ih ⊢
        rw [ih]

/-- How many spaces start a line. -/
def indentOf (text : List Char) : Nat := (text.takeWhile (· == ' ')).length

/-- The indentation of a block whose header gives none: that of its first line with text, or of a
line of spaces above it that is longer. -/
def detectIndent : List Line → Nat
  | [] => 0
  | line :: lines =>
    if line.text.all (· == ' ') then max line.text.length (detectIndent lines)
    else indentOf line.text

/-- The text of a line of a block, if it has the indentation and text after it. -/
def contentOf? (indent : Nat) (line : Line) : Option (List Char) :=
  if indent ≤ indentOf line.text ∧ indent < line.text.length then some (line.text.drop indent)
  else none

/-- Counts the lines that are empty at an indentation; what follows them. -/
def emptyLines (indent : Nat) : List Line → Nat × List Line
  | [] => (0, [])
  | line :: lines =>
    if line.ended && line.text.all (· == ' ') && line.text.length ≤ indent then
      let (n, rest) := emptyLines indent lines
      (n + 1, rest)
    else (0, line :: lines)

/-- The text of a block without the line breaks at its end, whether its last line was ended, how
many empty lines follow, and the other lines. -/
structure BlockBody where
  text : List Char
  ended : Bool
  empties : Nat
  rest : List Line

/-- Whether a line may be folded: it does not start with a blank. -/
def isFoldable (text : List Char) : Bool := !(text.head?.any isBlankChar)

/-- What separates two lines of a block, besides the empty lines between them. -/
def separator (folded : Bool) (text next : List Char) (empties : Nat) : List Char :=
  if folded && isFoldable text && isFoldable next then (if empties = 0 then [' '] else [])
  else ['\n']

/-- Reads the lines of a block; `empties` lines without text stand before them. -/
def blockBody (folded : Bool) (indent : Nat) :
    (fuel : Nat) → (empties : Nat) → List Line → BlockBody
  | 0, empties, lines => ⟨[], false, empties, lines⟩
  | _ + 1, empties, [] => ⟨[], false, empties, []⟩
  | fuel + 1, empties, line :: lines =>
    match contentOf? indent line with
    | none => ⟨[], false, empties, line :: lines⟩
    | some text =>
      let (after, rest) := emptyLines indent lines
      let start := List.replicate empties '\n' ++ text
      match rest.head?.bind (contentOf? indent) with
      | none => ⟨start, line.ended, after, rest⟩
      | some next =>
        let body := blockBody folded indent fuel after rest
        { body with text := start ++ separator folded text next after ++ body.text }

/-- The line breaks at the end of a block. -/
def BlockBody.tail (b : BlockBody) : Chomping → List Char
  | .strip => []
  | .clip => if b.ended then ['\n'] else []
  | .keep => (if b.ended then ['\n'] else []) ++ List.replicate b.empties '\n'

/-- Reads a block after its first indicator. The block is indented at least to the column `least`,
and at least by one. -/
def readBlock? (folded : Bool) (least : Nat) (s : List Char) : Option (Scalar × Place) :=
  (readHeader? s).map fun (header, rest) =>
    let lines := linesOf rest
    let start := max least 1
    let indent :=
      match header.increment with
      | some n => start + n - 1
      | none => max start (detectIndent lines)
    let (empties, lines) := emptyLines indent lines
    let body := blockBody folded indent (lines.length + 1) empties lines
    (⟨body.text ++ body.tail header.chomping, false⟩, ⟨0, true, textOf body.rest⟩)

end MetricFrames.Yaml
