import MetricFrames.Text.Search

/-!
# Regular expressions

The meaning of a regular expression is a relation between a text and what stands around it
(`Pattern.Matches`), so that anchors have one as well. A text is read as an expression in two steps:
characters into tokens, where a backslash takes the meaning from the character after it, and tokens
into the alternatives of nested groups (`Pattern.read?`).
-/

namespace MetricFrames.Text

/-- A regular expression. -/
inductive Pattern where
  | empty
  | char (c : Char)
  | any
  | oneOf (negated : Bool) (ranges : List (Char × Char))
  | start
  | stop
  | seq (first second : Pattern)
  | either (first second : Pattern)
  | repeated (least : Nat) (most : Option Nat) (body : Pattern)

namespace Pattern

/-! ### Meaning -/

/-- What an expression says of a text, given what stands before and after it. -/
abbrev Meaning := List Char → List Char → List Char → Prop

/-- A text in so many parts, one after another, each of them with the same meaning. -/
def Times (part : Meaning) : Nat → Meaning
  | 0, _, text, _ => text = []
  | n + 1, before, text, after => ∃ first rest, text = first ++ rest ∧
      part before first (rest ++ after) ∧ Times part n (before ++ first) rest after

/-- Whether an expression matches a text where it stands. -/
def Matches : Pattern → Meaning
  | empty, _, text, _ => text = []
  | char c, _, text, _ => text = [c]
  | any, _, text, _ => ∃ c, text = [c]
  | oneOf negated ranges, _, text, _ => ∃ c, text = [c] ∧
      ((∃ range ∈ ranges, range.1 ≤ c ∧ c ≤ range.2) ↔ negated = false)
  | start, before, text, _ => text = [] ∧ before = []
  | stop, _, text, after => text = [] ∧ after = []
  | seq first second, before, text, after => ∃ head rest, text = head ++ rest ∧
      first.Matches before head (rest ++ after) ∧ second.Matches (before ++ head) rest after
  | either first second, before, text, after =>
      first.Matches before text after ∨ second.Matches before text after
  | repeated least most body, before, text, after => ∃ n, least ≤ n ∧ (∀ m ∈ most, n ≤ m) ∧
      Times (fun before text after => body.Matches before text after) n before text after

/-- Whether an expression matches all of a text. -/
def MatchesFully (p : Pattern) (text : List Char) : Prop := p.Matches [] text []

/-- Expressions one after another. -/
def inOrder (ps : List Pattern) : Pattern := ps.foldr seq empty

variable {c : Char} {before text after : List Char} {p : Pattern} {ps : List Pattern}

theorem matches_inOrder_char : (inOrder (char c :: ps)).Matches before text after ↔
    ∃ rest, text = c :: rest ∧ (inOrder ps).Matches (before ++ [c]) rest after := by
  constructor
  · rintro ⟨head, rest, htext, rfl, hrest⟩
    exact ⟨rest, htext, hrest⟩
  · rintro ⟨rest, htext, hrest⟩
    exact ⟨[c], rest, htext, rfl, hrest⟩

theorem times_any (n : Nat) : Times (fun before text after => any.Matches before text after) n
    before text after ↔ text.length = n := by
  induction n generalizing before text with
  | zero => exact List.length_eq_zero_iff.symm
  | succ n ih =>
    constructor
    · rintro ⟨first, rest, rfl, ⟨c, rfl⟩, hrest⟩
      have hlen := ih.mp hrest
      simp only [List.singleton_append, List.length_cons]
      omega
    · intro h
      obtain ⟨c, rest, rfl⟩ := List.exists_cons_of_length_eq_add_one h
      have hlen : rest.length = n := by
        simp only [List.length_cons] at h
        omega
      exact ⟨[c], rest, rfl, ⟨c, rfl⟩, ih.mpr hlen⟩

/-- Any characters, however many. -/
def anyRun : Pattern := repeated 0 none any

theorem matches_anyRun : anyRun.Matches before text after :=
  ⟨text.length, Nat.zero_le _, nofun, (times_any _).mpr rfl⟩

theorem matches_inOrder_anyRun : (inOrder (anyRun :: ps)).Matches before text after ↔
    ∃ run rest, text = run ++ rest ∧ (inOrder ps).Matches (before ++ run) rest after := by
  constructor
  · rintro ⟨run, rest, htext, -, hrest⟩
    exact ⟨run, rest, htext, hrest⟩
  · rintro ⟨run, rest, htext, hrest⟩
    exact ⟨run, rest, htext, matches_anyRun, hrest⟩

theorem matches_inOrder_start :
    (inOrder (start :: ps)).MatchesFully text ↔ (inOrder ps).MatchesFully text := by
  constructor
  · rintro ⟨head, rest, rfl, ⟨rfl, -⟩, hrest⟩
    exact hrest
  · intro h
    exact ⟨[], text, rfl, ⟨rfl, rfl⟩, h⟩

theorem matches_inOrder_stop : (inOrder [stop]).Matches before text [] ↔ text = [] := by
  constructor
  · rintro ⟨head, rest, rfl, ⟨rfl, -⟩, rfl⟩
    rfl
  · rintro rfl
    exact ⟨[], [], rfl, ⟨rfl, rfl⟩, rfl⟩

/-! ### Tokens -/

/-- A unit of the text of an expression. -/
inductive Token where
  | one (p : Pattern)
  | times (least : Nat) (most : Option Nat)
  | opening
  | closing
  | bar

/-- A character with its own meaning, if it has one. -/
def Token.ofChar (c : Char) : Token :=
  match c with
  | '.' => .one any
  | '^' => .one start
  | '$' => .one stop
  | '*' => .times 0 none
  | '+' => .times 1 none
  | '?' => .times 0 (some 1)
  | '(' => .opening
  | ')' => .closing
  | '|' => .bar
  | c => .one (char c)

/-- A number in decimal digits. -/
def numeral? (digits : List Char) : Option Nat :=
  if digits ≠ [] ∧ digits.all Char.isDigit then
    some (digits.foldl (fun n c => 10 * n + (c.toNat - '0'.toNat)) 0)
  else none

/-- How often to repeat: a number, a number at least, or between two numbers. -/
def count? (inside : List Char) : Option (Nat × Option Nat) :=
  match splitAt ',' inside with
  | [n] => (numeral? n).map fun n => (n, some n)
  | [least, []] => (numeral? least).map fun n => (n, none)
  | [least, most] => do
    let n ← numeral? least
    let m ← numeral? most
    if n ≤ m then some (n, some m) else none
  | _ => none

/-- The ranges of a set; the characters come with whether a backslash stood before them. -/
def ranges : List (Bool × Char) → List (Char × Char)
  | (_, low) :: (false, '-') :: (_, high) :: rest => (low, high) :: ranges rest
  | (_, c) :: rest => (c, c) :: ranges rest
  | [] => []

/-- A set of characters, or all others. -/
def setOf : List (Bool × Char) → Pattern
  | (false, '^') :: inside => oneOf true (ranges inside)
  | inside => oneOf false (ranges inside)

/-- Where a reader of tokens is. -/
inductive Place where
  | outside
  | escaped
  | set (inside : List (Bool × Char))
  | setEscaped (inside : List (Bool × Char))
  | count (inside : List Char)

/-- The tokens of a text, if it is not cut short and its counts are numbers. A bracket right at the
start of a set belongs to the set. -/
def tokens : Place → List Char → Option (List Token)
  | .outside, [] => some []
  | _, [] => none
  | .outside, c :: cs =>
    if c = '\\' then tokens .escaped cs
    else if c = '[' then tokens (.set []) cs
    else if c = '\x7b' then tokens (.count []) cs
    else (tokens .outside cs).map (Token.ofChar c :: ·)
  | .escaped, c :: cs => (tokens .outside cs).map (.one (char c) :: ·)
  | .set inside, c :: cs =>
    if c = '\\' then tokens (.setEscaped inside) cs
    else if c = ']' ∧ inside ≠ [] ∧ inside ≠ [(false, '^')] then
      (tokens .outside cs).map (.one (setOf inside) :: ·)
    else tokens (.set (inside ++ [(false, c)])) cs
  | .setEscaped inside, c :: cs => tokens (.set (inside ++ [(true, c)])) cs
  | .count inside, c :: cs =>
    if c = '\x7d' then do
      let (least, most) ← count? inside
      let rest ← tokens .outside cs
      return .times least most :: rest
    else tokens (.count (inside ++ [c])) cs

/-! ### Groups -/

/-- A group that is being read: its earlier alternatives, and the parts of the current one, the last
part first. -/
structure Group where
  earlier : Option Pattern := none
  parts : List Pattern := []

namespace Group

/-- The group with one more part. -/
def add (g : Group) (p : Pattern) : Group := { g with parts := p :: g.parts }

/-- What was read of a group. -/
def pattern (g : Group) : Pattern :=
  match g.earlier with
  | none => inOrder g.parts.reverse
  | some p => either p (inOrder g.parts.reverse)

/-- Reads a token in a group inside others, the innermost first. -/
def step : Group × List Group → Token → Option (Group × List Group)
  | (g, outer), .one p => some (g.add p, outer)
  | (g, outer), .times least most =>
    match g.parts with
    | [] => none
    | p :: parts => some ({ g with parts := repeated least most p :: parts }, outer)
  | (g, outer), .opening => some ({}, g :: outer)
  | (_, []), .closing => none
  | (g, o :: outer), .closing => some (o.add g.pattern, outer)
  | (g, outer), .bar => some ({ earlier := some g.pattern }, outer)

end Group

/-- Reads a text as an expression. -/
def read? (text : List Char) : Option Pattern := do
  let (g, outer) ← (← tokens .outside text).foldlM Group.step ({}, [])
  if outer.isEmpty then some g.pattern else none

end Pattern
end MetricFrames.Text
