import MetricFrames.Binary64.Reading
import MetricFrames.Data.Basic
import MetricFrames.Fault
import MetricFrames.Text.Hex

/-!
# Reading JSON

A reader for JSON texts that also takes `NaN`, `Infinity` and `-Infinity` as numbers. A number
without point and exponent is an integer of any size, any other number is the nearest binary64
number. Of two members with one name the later value counts. Everything else is strict: no control
character inside a text, no comma before a closing bracket, nothing after the value.

There are two dialects. The body of a reply nests at most two hundred deep, its texts hold whole
characters only, and the digits before a point are limited in any number. A document nests without
limit, half of a surrogate pair may stand alone in it, and only integers are limited in their
digits.

A problem has a cause and a place, given as the number of characters left from there on.
-/

namespace MetricFrames.Json

/-- The dialects. -/
inductive Dialect where
  | body | document
  deriving DecidableEq

/-- Why a text is not JSON, or not one that is read. -/
inductive Cause where
  | value | name | colon | comma | openText | control | escape | code | extra | depth
  | digits (count : Nat)
  deriving DecidableEq

/-- A cause and how many characters are left from its place on. -/
structure Problem where
  cause : Cause
  left : Nat
  deriving DecidableEq

/-- What was read and the rest of the text. -/
abbrev Reading (α : Type) := Except Problem (α × List Char)

/-- The blanks between tokens. -/
def isGap (c : Char) : Bool := c == ' ' || c == '\t' || c == '\n' || c == '\r'

/-- The text without the blanks at its start. -/
def skipGap (s : List Char) : List Char := s.dropWhile isGap

/-- A failure at the start of the given rest. -/
def fail {α : Type} (cause : Cause) (rest : List Char) : Except Problem α :=
  .error ⟨cause, rest.length⟩

/-! ### Texts -/

/-- The character that an escape of one letter stands for. -/
def escaped? (c : Char) : Option Char :=
  if c = '"' then some '"'
  else if c = '\\' then some '\\'
  else if c = '/' then some '/'
  else if c = 'b' then some (Char.ofNat 8)
  else if c = 'f' then some (Char.ofNat 12)
  else if c = 'n' then some '\n'
  else if c = 'r' then some '\r'
  else if c = 't' then some '\t'
  else none

/-- Whether a code unit is the first half of a pair. -/
def isHighHalf (n : Nat) : Bool := 0xD800 ≤ n && n ≤ 0xDBFF

/-- Whether a code unit is the second half of a pair. -/
def isLowHalf (n : Nat) : Bool := 0xDC00 ≤ n && n ≤ 0xDFFF

/-- The code point of a pair of halves. -/
def joinHalves (high low : Nat) : Nat := 0x10000 + (high - 0xD800) * 0x400 + (low - 0xDC00)

/-- What stands for half of a pair that stands alone: the character of the last private use plane
with the same last digits. -/
def loneHalf (n : Nat) : Char := Char.ofNat (0x100000 + n)

/-- The code unit of an escape after its `u`, and the rest. Something has to follow its four
digits. -/
def codeUnit? : List Char → Option (Nat × List Char)
  | a :: b :: c :: d :: e :: s => (Text.readHex? [a, b, c, d]).map fun n => (n, e :: s)
  | _ => none

/-- The second half of a pair, if it comes next, and the rest. -/
def lowHalf? : List Char → Option (Nat × List Char)
  | '\\' :: 'u' :: s => (codeUnit? s).filter fun (n, _) => isLowHalf n
  | _ => none

theorem length_of_codeUnit? {s rest : List Char} {n : Nat} (h : codeUnit? s = some (n, rest)) :
    rest.length < s.length := by
  unfold codeUnit? at h
  split at h
  · simp only [Option.map_eq_some_iff, Prod.mk.injEq] at h
    obtain ⟨_, _, _, rfl⟩ := h
    simp only [List.length_cons]; omega
  · simp at h

theorem length_of_lowHalf? {s rest : List Char} {n : Nat} (h : lowHalf? s = some (n, rest)) :
    rest.length < s.length := by
  unfold lowHalf? at h
  split at h
  · have := length_of_codeUnit? (Option.filter_eq_some_iff.1 h).1
    simp only [List.length_cons]; omega
  · simp at h

/-- The character of a code unit, which may be the first half of a pair, and the rest. -/
def character? (dialect : Dialect) (n : Nat) (s : List Char) : Option (Char × List Char) :=
  if isHighHalf n then
    match lowHalf? s with
    | some (low, rest) => some (Char.ofNat (joinHalves n low), rest)
    | none => if dialect = .document then some (loneHalf n, s) else none
  else if isLowHalf n then
    if dialect = .document then some (loneHalf n, s) else none
  else some (Char.ofNat n, s)

theorem length_of_character? {dialect : Dialect} {n : Nat} {s rest : List Char} {c : Char}
    (h : character? dialect n s = some (c, rest)) : rest.length ≤ s.length := by
  unfold character? at h
  split at h
  · split at h
    · next hl =>
      simp only [Option.some.injEq, Prod.mk.injEq] at h
      exact h.2 ▸ Nat.le_of_lt (length_of_lowHalf? hl)
    · split at h <;> simp_all
  · split at h
    · split at h <;> simp_all
    · simp_all

/-- Reads the inside of a text up to its closing quote. `whole` counts the characters from the
opening quote on, `done` holds what was read, last character first. -/
def readInside (dialect : Dialect) (whole : Nat) (done : List Char) (s : List Char) :
    Reading String :=
  match s with
  | [] => .error ⟨.openText, whole⟩
  | '"' :: s => .ok (String.ofList done.reverse, s)
  | ['\\'] => .error ⟨.openText, whole⟩
  | '\\' :: 'u' :: s =>
    match h : codeUnit? s with
    | none => fail .code ('u' :: s)
    | some (n, rest) =>
      have := length_of_codeUnit? h
      match h' : character? dialect n rest with
      | none => fail .code ('u' :: s)
      | some (c, rest') =>
        have := length_of_character? h'
        readInside dialect whole (c :: done) rest'
  | '\\' :: c :: s =>
    match escaped? c with
    | some e => readInside dialect whole (e :: done) s
    | none => fail .escape ('\\' :: c :: s)
  | c :: s =>
    if c.toNat < 32 then fail .control (c :: s) else readInside dialect whole (c :: done) s
termination_by s.length
decreasing_by all_goals simp only [List.length_cons] at *; omega

/-- Reads a text after its opening quote. -/
def readText (dialect : Dialect) (s : List Char) : Reading String :=
  readInside dialect (s.length + 1) [] s

/-! ### Numbers and words -/

/-- The digits of a whole number: a zero alone, or digits that start with another one. -/
def wholeDigits : List Char → List Char × List Char
  | '0' :: s => (['0'], s)
  | s => Binary64.spanDigits s

/-- The places after a point; without a digit there, nothing. -/
def places : List Char → List Char × List Char
  | '.' :: s =>
    let (ds, rest) := Binary64.spanDigits s
    if ds.isEmpty then ([], '.' :: s) else (ds, rest)
  | s => ([], s)

/-- An exponent; without a digit in it, nothing. -/
def exponent? : List Char → Option (Int × List Char)
  | c :: s =>
    if c = 'e' || c = 'E' then
      let (negative, digits) := Binary64.readSign s
      let (ds, rest) := Binary64.spanDigits digits
      let e : Int := Binary64.digitsFrom 0 ds
      if ds.isEmpty then none else some (if negative then -e else e, rest)
    else none
  | [] => none

/-- Why the digits before a point are too many: with their sign in a body, without it in the integer
of a document. -/
def tooLong? (dialect : Dialect) (negative isInteger : Bool) (digits : Nat) : Option Cause :=
  match dialect with
  | .body => if Fault.maxDigits < digits + negative.toNat then some .value else none
  | .document => if isInteger && Fault.maxDigits < digits then some (.digits digits) else none

/-- A number with an optional minus. -/
def number (dialect : Dialect) (s : List Char) : Reading Data :=
  let negative := s.head? == some '-'
  let body := if negative then s.tail else s
  let (whole, rest) := wholeDigits body
  if whole.isEmpty then fail .value s
  else
    let (after, rest) := places rest
    let exponent := exponent? rest
    match tooLong? dialect negative (after.isEmpty && exponent.isNone) whole.length with
    | some cause => fail cause s
    | none =>
      let n := Binary64.digitsFrom 0 whole
      match exponent with
      | some (e, rest) =>
        let digits := Binary64.digitsFrom n after
        .ok (.float (Numeral.value ⟨negative, digits, e - after.length⟩), rest)
      | none =>
        if after.isEmpty then .ok (.int (if negative then -(n : Int) else n), rest)
        else
          .ok (.float (Numeral.value ⟨negative, Binary64.digitsFrom n after, -after.length⟩), rest)

/-- The words that are values. -/
def words : List (List Char × Data) := [
  ("null".toList, .null), ("true".toList, .bool true), ("false".toList, .bool false),
  ("NaN".toList, .float .nan), ("Infinity".toList, .float (.infinite false)),
  ("-Infinity".toList, .float (.infinite true))]

/-- The text after a word, if the word stands at its start. -/
def afterWord? (word s : List Char) : Option (List Char) :=
  if word.isPrefixOf s then some (s.drop word.length) else none

/-- A word or a number. -/
def readAtom (dialect : Dialect) (s : List Char) : Reading Data :=
  match words.findSome? fun (word, d) => (afterWord? word s).map fun rest => (d, rest) with
  | some found => .ok found
  | none => number dialect s

/-- Whether a list or object inside so many others may hold nothing. -/
def isTooDeep (dialect : Dialect) (depth : Nat) : Bool := dialect = .body && 200 ≤ depth

/-! ### Values -/

mutual

/-- Reads a value that starts here, inside `depth` lists and objects. `fuel` bounds the steps still
to be taken, of which a character takes at most two. -/
def readValue (dialect : Dialect) : (fuel depth : Nat) → List Char → Reading Data
  | 0, _, s => fail .value s
  | fuel + 1, depth, s =>
    match s with
    | '"' :: t => (readText dialect t).map fun (text, rest) => (.text text, rest)
    | '[' :: t =>
      match skipGap t with
      | ']' :: rest => .ok (.list [], rest)
      | t =>
        if isTooDeep dialect depth then fail .depth s
        else
          (readItems dialect fuel (depth + 1) [] t).map fun (items, rest) => (.list items, rest)
    | '\x7b' :: t =>
      match skipGap t with
      | '\x7d' :: rest => .ok (.object [], rest)
      | t =>
        if isTooDeep dialect depth then fail .depth s
        else
          (readMembers dialect fuel (depth + 1) [] t).map fun (members, rest) =>
            (.object members, rest)
    | _ => readAtom dialect s

/-- Reads the items of a list and its closing bracket; `done` holds the items before, the last
one first. -/
def readItems (dialect : Dialect) :
    (fuel depth : Nat) → (done : List Data) → List Char → Reading (List Data)
  | 0, _, _, s => fail .value s
  | fuel + 1, depth, done, s =>
    match readValue dialect fuel depth s with
    | .error e => .error e
    | .ok (d, rest) =>
      match skipGap rest with
      | ']' :: rest => .ok ((d :: done).reverse, rest)
      | ',' :: rest => readItems dialect fuel depth (d :: done) (skipGap rest)
      | rest => fail .comma rest

/-- Reads the members of an object and its closing bracket; `done` holds the members before. -/
def readMembers (dialect : Dialect) :
    (fuel depth : Nat) → (done : Members Data) → List Char → Reading (Members Data)
  | 0, _, _, s => fail .name s
  | fuel + 1, depth, done, s =>
    match s with
    | '"' :: t =>
      match readText dialect t with
      | .error e => .error e
      | .ok (name, rest) =>
        match skipGap rest with
        | ':' :: rest =>
          match readValue dialect fuel depth (skipGap rest) with
          | .error e => .error e
          | .ok (d, rest) =>
            match skipGap rest with
            | '\x7d' :: rest => .ok (done.put name d, rest)
            | ',' :: rest => readMembers dialect fuel depth (done.put name d) (skipGap rest)
            | rest => fail .comma rest
        | rest => fail .colon rest
    | s => fail .name s

end

/-- The value of a JSON text. -/
def read (dialect : Dialect) (s : List Char) : Except Problem Data :=
  match readValue dialect (2 * s.length + 2) 0 (skipGap s) with
  | .error e => .error e
  | .ok (d, rest) =>
    match skipGap rest with
    | [] => .ok d
    | rest => fail .extra rest

/-! ### Messages -/

/-- What a message says of a cause. -/
def Cause.message : Cause → String
  | .value => "Expecting value"
  | .name => "Expecting property name enclosed in double quotes"
  | .colon => "Expecting ':' delimiter"
  | .comma => "Expecting ',' delimiter"
  | .openText => "Unterminated string starting at"
  | .control => "Invalid control character at"
  | .escape => "Invalid \\escape"
  | .code => "Invalid \\uXXXX escape"
  | .extra => "Extra data"
  | .depth => "Nested too deeply"
  | .digits count => (Fault.tooManyDigits count).message

/-- The cause with its line, its column and its index in the text; the digits of an integer are a
problem wherever they stand. -/
def Problem.message (p : Problem) (whole : List Char) : String :=
  match p.cause with
  | .digits _ => p.cause.message
  | _ =>
    let before := whole.take (whole.length - p.left)
    let line := before.count '\n' + 1
    let column := (before.reverse.takeWhile (· != '\n')).length + 1
    p.cause.message ++ ": line " ++ toString line ++ " column " ++ toString column ++ " (char " ++
      toString before.length ++ ")"

end MetricFrames.Json
