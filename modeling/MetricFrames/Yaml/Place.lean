/-!
# Places in a YAML text

Structure in YAML hangs on columns, so a place is the rest of the text with its column. A place is
fresh if only blanks stand before it on its line. Between tokens lie blanks, line breaks and
comments; tabs are no blanks there.
-/

namespace MetricFrames.Yaml

/-- A place in a text. -/
structure Place where
  column : Nat
  fresh : Bool
  rest : List Char

/-- A place inside a line whose column does not matter. -/
def Place.inside (rest : List Char) : Place := ⟨0, false, rest⟩

/-- Blanks inside a scalar: spaces, tabs and line breaks. -/
def isBlankChar (c : Char) : Bool := c == ' ' || c == '\t' || c == '\n'

/-- Whether a token may end here. -/
def endsToken : List Char → Bool
  | [] => true
  | c :: _ => isBlankChar c

/-- Skips blanks, line breaks and comments. -/
def skip (comment : Bool) (column : Nat) (fresh : Bool) : List Char → Place
  | [] => ⟨column, fresh, []⟩
  | c :: s =>
    if c = '\n' then skip false 0 true s
    else if comment then skip true (column + 1) fresh s
    else if c = ' ' then skip false (column + 1) fresh s
    else if c = '#' then skip true (column + 1) fresh s
    else ⟨column, fresh, c :: s⟩

/-- The place of the next token. -/
def Place.gap (p : Place) : Place := skip false p.column p.fresh p.rest

theorem length_rest_skip (comment : Bool) (column : Nat) (fresh : Bool) (s : List Char) :
    (skip comment column fresh s).rest.length ≤ s.length := by
  induction s generalizing comment column fresh with
  | nil => simp [skip]
  | cons c s ih =>
    simp only [skip, List.length_cons]
    split
    · exact Nat.le_succ_of_le (ih ..)
    · split
      · exact Nat.le_succ_of_le (ih ..)
      · split
        · exact Nat.le_succ_of_le (ih ..)
        · split
          · exact Nat.le_succ_of_le (ih ..)
          · simp

/-! ### Folding -/

/-- Blanks inside a scalar: the text that stands for them, whether they hold a line break, and the
place after them. -/
structure Fold where
  text : List Char
  crossed : Bool
  next : Place

/-- Counts the line breaks among blanks; the column starts anew after each. -/
def countBreaks (isSpace : Char → Bool) (breaks column : Nat) : List Char → Nat × Place
  | [] => (breaks, ⟨column, true, []⟩)
  | c :: s =>
    if c = '\n' then countBreaks isSpace (breaks + 1) 0 s
    else if isSpace c then countBreaks isSpace breaks (column + 1) s
    else (breaks, ⟨column, true, c :: s⟩)

/-- Folds the blanks that start here: one line break becomes a space, of more than one all but the
first stay, and blanks without a line break stay as they are. -/
def foldBlanks (isSpace : Char → Bool) (s : List Char) : Fold :=
  match s.dropWhile isSpace with
  | '\n' :: rest =>
    let (breaks, next) := countBreaks isSpace 0 0 rest
    ⟨if breaks = 0 then [' '] else List.replicate breaks '\n', true, next⟩
  | rest => ⟨s.takeWhile isSpace, false, .inside rest⟩

end MetricFrames.Yaml
