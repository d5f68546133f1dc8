import MetricFrames.Text.Blank
import MetricFrames.Text.Hex
import MetricFrames.Text.Printable
import MetricFrames.Text.Quoted
import MetricFrames.Text.Search
import MetricFrames.Text.Word

/-!
# Handlers of tags

A tag whose name starts with an at sign carries a handler: a name and arguments in parentheses, or
only arguments. The arguments are an expression; when the tag is closed, one that cannot be read is
a fault (`problem?`). It is cut into tokens first; what cannot be a token is the first problem to
be told.
-/

namespace MetricFrames.Handler

/-- A token of an expression. -/
inductive Token where
  | word (name : String)
  | number
  | text
  | sign (name : String)
  deriving DecidableEq

/-! ### Tokens -/

/-- Characters of which words are made. -/
def isWordChar (c : Char) : Bool := c.isAlphanum || c == '_' || 128 ≤ c.toNat

/-- Words that may follow a number directly. -/
def mayFollowNumber : List String := ["and", "else", "for", "if", "in", "is", "not", "or"]

/-- Words with a meaning of their own. -/
def keywords : List String := [
  "False", "None", "True", "and", "as", "assert", "async", "await", "break", "class", "continue",
  "def", "del", "elif", "else", "except", "finally", "for", "from", "global", "if", "import", "in",
  "is", "lambda", "nonlocal", "not", "or", "pass", "raise", "return", "try", "while", "with",
  "yield"]

/-- The signs of more than one character, longer ones first. -/
def longSigns : List String := [
  "**=", "//=", "<<=", ">>=", "...", "**", "//", "<<", ">>", "<=", ">=", "==", "!=", "->", "+=",
  "-=", "*=", "/=", "%=", "&=", "|=", "^=", "@=", ":="]

/-- The rest after digits, between which single underscores may stand; nothing if there is no digit
where one has to be. -/
def skipDigits? (isDigit : Char → Bool) : List Char → Option (List Char)
  | [] => none
  | [c] => if isDigit c then some [] else none
  | c :: d :: s =>
    if isDigit c then
      if d = '_' then skipDigits? isDigit s
      else if isDigit d then skipDigits? isDigit (d :: s)
      else some (d :: s)
    else none

/-- What is wrong with digits of another base. -/
def basedProblem (base : String) : String := "invalid " ++ base ++ " literal"

/-- Reads a number after its first digits: a fraction, an exponent, and the mark of imaginary
numbers. -/
def skipTail (s : List Char) : Except String (List Char) := do
  let afterPoint ←
    match s with
    | '.' :: d :: rest =>
      if d.isDigit then ofDecimal (skipDigits? Char.isDigit (d :: rest)) else .ok (d :: rest)
    | ['.'] => .ok []
    | s => .ok s
  let afterExponent ←
    match afterPoint with
    | e :: rest =>
      if e == 'e' || e == 'E' then
        match rest with
        | '+' :: d :: rest | '-' :: d :: rest =>
          if d.isDigit then ofDecimal (skipDigits? Char.isDigit (d :: rest)) else .ok afterPoint
        | d :: rest =>
          if d.isDigit then ofDecimal (skipDigits? Char.isDigit (d :: rest)) else .ok afterPoint
        | [] => .ok afterPoint
      else .ok afterPoint
    | [] => .ok afterPoint
  match afterExponent with
  | j :: rest => return if j == 'j' || j == 'J' then rest else afterExponent
  | [] => return []
where
  /-- Digits that break off are a problem. -/
  ofDecimal : Option (List Char) → Except String (List Char)
    | some rest => .ok rest
    | none => .error (basedProblem "decimal")

/-- A number may not run into a word. -/
def checkEnd (kind : String) (rest : List Char) : Except String (List Char) :=
  if (rest.head?.any fun c => c.isAlphanum || c == '_') &&
      !(mayFollowNumber.any fun w => w.toList.isPrefixOf rest) then .error (basedProblem kind)
  else .ok rest

/-- The digits of another base, by the letter after the zero. -/
def basedDigits? (c : Char) : Option (String × (Char → Bool)) :=
  if c == 'x' || c == 'X' then some ("hexadecimal", fun d => (Text.hexValue? d).isSome)
  else if c == 'o' || c == 'O' then some ("octal", fun d => '0' ≤ d && d ≤ '7')
  else if c == 'b' || c == 'B' then some ("binary", fun d => d == '0' || d == '1')
  else none

/-- The report on an integer that starts with a zero. -/
def leadingZeros : String :=
  "leading zeros in decimal integer literals are not permitted; " ++
    "use an 0o prefix for octal integers"

/-- Reads a number that starts with a digit or with a point and a digit. -/
def skipNumber (s : List Char) : Except String (List Char) :=
  let based : Option (String × Option (List Char)) :=
    match s with
    | '0' :: c :: rest =>
      (basedDigits? c).map fun (kind, isDigit) =>
        (kind, skipDigits? isDigit (if rest.head? = some '_' then rest.drop 1 else rest))
    | _ => none
  match based with
  | some (kind, some rest) =>
    match rest.head? with
    | some d =>
      if d.isDigit then
        .error ("invalid digit '" ++ String.ofList [d] ++ "' in " ++ kind ++ " literal")
      else checkEnd kind rest
    | none => .ok rest
  | some (kind, none) =>
    match s[2]? with
    | some d =>
      if d.isDigit then
        .error ("invalid digit '" ++ String.ofList [d] ++ "' in " ++ kind ++ " literal")
      else .error (basedProblem kind)
    | none => .error (basedProblem kind)
  | none => do
    let afterWhole ←
      match s with
      | '.' :: _ => .ok s
      | _ => skipTail.ofDecimal (skipDigits? Char.isDigit s)
    let rest ← skipTail afterWhole
    let whole := s.take (s.length - afterWhole.length)
    let isInteger := rest.length == afterWhole.length
    if isInteger && whole.head? = some '0' && whole.any (fun c => c != '0' && c != '_') then
      .error leadingZeros
    else checkEnd "decimal" rest

/-- Reads a text up to its closing quote. -/
def skipText (quote : Char) : List Char → Except String (List Char)
  | [] => .error "unterminated string literal (detected at line 1)"
  | '\n' :: _ => .error "unterminated string literal (detected at line 1)"
  | '\\' :: _ :: s => skipText quote s
  | c :: s => if c = quote then .ok s else skipText quote s

/-- Reads a text up to three closing quotes. -/
def skipLongText (quote : Char) : List Char → Except String (List Char)
  | [] => .error "unterminated triple-quoted string literal (detected at line 1)"
  | '\\' :: _ :: s => skipLongText quote s
  | c :: s =>
    match s with
    | d :: e :: rest =>
      if c = quote ∧ d = quote ∧ e = quote then .ok rest else skipLongText quote s
    | _ => skipLongText quote s

/-- Reads a text after its opening quote. -/
def skipQuoted (quote : Char) (s : List Char) : Except String (List Char) :=
  match s with
  | c :: d :: rest =>
    if c = quote ∧ d = quote then skipLongText quote rest else skipText quote s
  | _ => skipText quote s

/-- Letters that may stand before a text. -/
def textMarks : List String := ["r", "b", "u", "f", "br", "rb", "fr", "rf"]

/-- The problem of a character that is part of no token. -/
def badCharacter (c : Char) : String :=
  let code := String.ofList
    (Text.hexUpper (if c.toNat < 65536 then 4 else if c.toNat < 1048576 then 5 else 6) c.toNat)
  if Text.isPrintable c then
    "invalid character '" ++ String.ofList [c] ++ "' (U+" ++ code ++ ")"
  else "invalid non-printable character U+" ++ code

/-- Checks that a word is made of letters and digits. -/
def checkWord (word : List Char) : Except String Token :=
  match word.find? fun c => !Text.isWord c with
  | some c => .error (badCharacter c)
  | none => .ok (.word (String.ofList word))

/-- The bracket that a closing one belongs to. -/
def opening (closing : Char) : Char :=
  if closing = ')' then '(' else if closing = ']' then '[' else '\x7b'

/-- How the tokens of an expression end: with brackets that are open, the last one first, or with
something that counts as a problem only if the expression goes on there. -/
inductive Ending where
  | brackets (open_ : List Char)
  | broken (message : String)

/-- The tokens of an expression and how they end. -/
def tokens : (fuel : Nat) → (brackets : List Char) → List Char →
    Except String (List Token × Ending)
  | 0, brackets, _ => .ok ([], .brackets brackets)
  | _, brackets, [] => .ok ([], .brackets brackets)
  | fuel + 1, brackets, c :: s => do
    let next (t : Token) (brackets rest : List Char) : Except String (List Token × Ending) := do
      let (ts, ending) ← tokens fuel brackets rest
      return (t :: ts, ending)
    let word := (c :: s).takeWhile isWordChar
    let afterWord := (c :: s).drop word.length
    if c == ' ' || c == '\t' || c.toNat == 12 then tokens fuel brackets s
    else if c == '\n' then
      if brackets.isEmpty then next (.sign "\n") brackets s else tokens fuel brackets s
    else if c == '#' then tokens fuel brackets (s.dropWhile (· != '\n'))
    else if c == '\\' then
      match s with
      | '\n' :: rest => tokens fuel brackets rest
      | _ => .ok ([], .broken "unexpected character after line continuation character")
    else if c.isDigit || (c == '.' && s.head?.any Char.isDigit) then
      next .number brackets (← skipNumber (c :: s))
    else if c == '\'' || c == '"' then next .text brackets (← skipQuoted c s)
    else if !word.isEmpty then
      match afterWord with
      | q :: rest =>
        let mark := String.ofList (word.map Char.toLower)
        if (q == '\'' || q == '"') && textMarks.contains mark then
          next .text brackets (← skipQuoted q rest)
        else next (← checkWord word) brackets afterWord
      | [] => next (← checkWord word) brackets afterWord
    else if c == '(' || c == '[' || c == '\x7b' then
      next (.sign (String.ofList [c])) (c :: brackets) s
    else if c == ')' || c == ']' || c == '\x7d' then
      match brackets with
      | [] => .error ("unmatched '" ++ String.ofList [c] ++ "'")
      | b :: outer =>
        if b = opening c then next (.sign (String.ofList [c])) outer s
        else .error ("closing parenthesis '" ++ String.ofList [c] ++
          "' does not match opening parenthesis '" ++ String.ofList [b] ++ "'")
    else if c.toNat < 32 || c.toNat == 127 then .error (badCharacter c)
    else
      match longSigns.find? fun sign => sign.toList.isPrefixOf (c :: s) with
      | some sign => next (.sign sign) brackets ((c :: s).drop sign.length)
      | none => next (.sign (String.ofList [c])) brackets s

/-! ### Expressions -/

/-- What an expression is, as far as a report on it tells. -/
inductive Shape where
  | name | attribute | call | constant | operation | comparison | group | other
  deriving DecidableEq

/-- Why an expression cannot be read: it breaks off, or there is a report. -/
inductive Problem where
  | ended
  | report (message : String)
  deriving DecidableEq

/-- The usual report. -/
def Problem.invalid : Problem := .report "invalid syntax"

/-- The report where a token does not belong, unless the expression breaks off there. -/
def Problem.at : List Token → Problem
  | [] => .ended
  | _ => .invalid

/-- What an expression is, and what follows. -/
abbrev Found := Shape × List Token

/-- The signs between two operands. -/
def operators : List String :=
  ["+", "-", "*", "/", "//", "%", "@", "<<", ">>", "&", "|", "^", "**"]

/-- The signs between two things compared. -/
def comparisons : List String := ["<", ">", "==", ">=", "<=", "!="]

/-- Whether a token may start an expression. -/
def startsExpression : Token → Bool
  | .word w =>
    !keywords.contains w ||
      ["not", "None", "True", "False", "lambda", "await", "yield"].contains w
  | .number | .text => true
  | .sign s => ["(", "\x7b", "-", "+", "~", "..."].contains s

/-- Drops texts that stand side by side. -/
def dropTexts (ts : List Token) : List Token := ts.dropWhile (· = .text)

/-- What a report calls an expression to which nothing can be assigned. -/
def Shape.title : Shape → String
  | .attribute => "attribute"
  | .call => "function call"
  | .constant => "literal"
  | _ => "expression"

/-- Kinds of operators between two operands: those that compute, compare, or combine conditions. -/
inductive Operator where
  | computes | compares | combines
  deriving DecidableEq

/-- The operator that stands here, and what follows. -/
def operator? : List Token → Option (Operator × List Token)
  | .sign s :: ts =>
    if operators.contains s then some (.computes, ts)
    else if comparisons.contains s then some (.compares, ts)
    else none
  | .word "not" :: .word "in" :: ts => some (.compares, ts)
  | .word "is" :: .word "not" :: ts => some (.compares, ts)
  | .word w :: ts =>
    if w = "in" ∨ w = "is" then some (.compares, ts)
    else if w = "and" ∨ w = "or" then some (.combines, ts)
    else none
  | _ => none

/-- A negated condition may be an operand only where conditions are combined. -/
def checkNegation (ts : List Token) : Except Problem Unit :=
  if ts.head? = some (.word "not") then .error .invalid else .ok ()

/-- Signs and words before an operand. -/
def isPrefix (t : Token) : Bool :=
  [Token.sign "-", .sign "+", .sign "~", .word "not"].contains t

/-- What cannot be read after a star is reported as such. -/
def starred (found : Except Problem Found) : Except Problem Found :=
  match found with
  | .error (.report _) => .error (.report "Invalid star expression")
  | found => found

mutual

/-- An expression, with a choice by a condition perhaps. -/
def expression : (fuel : Nat) → List Token → Except Problem Found
  | 0, _ => .error .invalid
  | fuel + 1, ts => do
    let (shape, rest) ← operation fuel ts
    match rest with
    | .word "if" :: rest => do
      let (_, rest) ← operation fuel rest
      match rest with
      | .word "else" :: rest => do
        let (_, rest) ← expression fuel rest
        return (.other, rest)
      | [] => .error .ended
      | _ => .error (.report "expected 'else' after 'if' expression")
    | _ => return (shape, rest)

/-- Operands with operators between them. -/
def operation : (fuel : Nat) → List Token → Except Problem Found
  | 0, _ => .error .invalid
  | fuel + 1, ts => do
    let (shape, rest) ←
      match ts with
      | .word "not" :: rest => do
        let (_, rest) ← operation fuel rest
        pure (Shape.comparison, rest)
      | .sign s :: rest =>
        if s == "-" || s == "+" || s == "~" then do
          checkNegation rest
          let (_, rest) ← operation fuel rest
          pure (Shape.operation, rest)
        else operand fuel ts
      | _ => operand fuel ts
    match operator? rest with
    | some (kind, rest) => do
      if kind ≠ .combines then checkNegation rest
      let (second, rest) ← operation fuel rest
      return (if kind = .computes ∧ second ≠ .comparison then .operation else .comparison, rest)
    | none => return (shape, rest)

/-- A constant, a name or a bracket, with attributes and calls after it. -/
def operand : (fuel : Nat) → List Token → Except Problem Found
  | 0, _ => .error .invalid
  | fuel + 1, ts =>
    match ts with
    | [] => .error .ended
    | .number :: rest => trailers fuel .constant rest
    | .text :: rest => trailers fuel .constant (dropTexts rest)
    | .sign "..." :: rest => trailers fuel .constant rest
    | .sign "(" :: rest => do
      let rest ← elements fuel true rest
      trailers fuel .group rest
    | .sign "\x7b" :: rest => do
      let rest ← members fuel none rest
      trailers fuel .group rest
    | .word w :: rest =>
      if ["True", "False", "None"].contains w then trailers fuel .other rest
      else if keywords.contains w then .error .invalid
      else trailers fuel .name rest
    | _ => .error .invalid

/-- Attributes and calls after an operand. -/
def trailers : (fuel : Nat) → Shape → List Token → Except Problem Found
  | 0, _, _ => .error .invalid
  | fuel + 1, shape, ts =>
    match ts with
    | .sign "." :: .word w :: rest =>
      if keywords.contains w then .error .invalid else trailers fuel .attribute rest
    | .sign "." :: rest => .error (Problem.at rest)
    | .sign "(" :: rest => do
      let rest ← arguments fuel rest
      trailers fuel .call rest
    | _ => return (shape, ts)

/-- What follows an element in brackets, neither a comma nor their end: a problem in any case. -/
def afterElement : (fuel : Nat) → Shape → (start rest : List Token) → Problem
  | 0, _, _, _ => .invalid
  | fuel + 1, shape, start, rest =>
    match rest with
    | [] => .ended
    | .sign "=" :: value =>
      match operation fuel value with
      | .error .ended | .ok (_, []) => .ended
      | .error _ | .ok (_, .sign "=" :: _) | .ok (_, .sign ":=" :: _) => .invalid
      | .ok _ =>
        match shape with
        | .name =>
          .report "invalid syntax. Maybe you meant '==' or ':=' instead of '='?"
        | .group | .comparison | .other => .invalid
        | shape =>
          .report ("cannot assign to " ++ shape.title ++
            " here. Maybe you meant '==' instead of '='?")
    | _ => neighbours fuel true shape start rest

/-- Two expressions side by side are a problem; `inside` says that they stand in brackets. -/
def neighbours : (fuel : Nat) → (inside : Bool) → Shape → (start rest : List Token) → Problem
  | 0, _, _, _, _ => .invalid
  | fuel + 1, inside, shape, start, rest =>
    if !(rest.head?.any startsExpression) then Problem.at rest
    else
      let second :=
        match expression fuel rest with
        | .error (.report _) => operand fuel (rest.dropWhile isPrefix)
        | found => found
      match second, start with
      | .error .ended, _ => .ended
      | .error _, _ => .invalid
      | .ok (_, after), .word w :: next :: _ =>
        if inside && after.isEmpty then .ended
        else if shape = .name ∧ (w = "print" ∨ w = "exec") then
          .report ("Missing parentheses in call to '" ++ w ++ "'. Did you mean " ++ w ++ "(...)?")
        else if (next = .text ∧ !keywords.contains w) || !inside then .invalid
        else .report "invalid syntax. Perhaps you forgot a comma?"
      | .ok (_, after), _ =>
        if inside && after.isEmpty then .ended
        else if inside then .report "invalid syntax. Perhaps you forgot a comma?" else .invalid

/-- The elements of a group up to its closing bracket. -/
def elements : (fuel : Nat) → (isFirst : Bool) → List Token → Except Problem (List Token)
  | 0, _, _ => .error .invalid
  | fuel + 1, isFirst, ts =>
    match ts with
    | .sign ")" :: rest => .ok rest
    | .sign "**" :: rest => do
      let (_, rest) ← expression fuel rest
      match rest with
      | .sign ")" :: _ =>
        if isFirst then .error (.report "cannot use double starred expression here")
        else .error .invalid
      | rest => .error (Problem.at rest)
    | .sign "*" :: rest => do
      let (_, rest) ← starred (operation fuel rest)
      match rest with
      | .sign ")" :: rest =>
        if isFirst then .error (.report "cannot use starred expression here") else .ok rest
      | .sign "," :: rest => elements fuel false rest
      | rest => .error (Problem.at rest)
    | ts => do
      let (shape, rest) ← expression fuel ts
      match rest with
      | .sign ")" :: rest => return rest
      | .sign "," :: rest => elements fuel false rest
      | .sign ":=" :: value =>
        if shape = .name then do
          let (_, rest) ← expression fuel value
          match rest with
          | .sign ")" :: rest => return rest
          | .sign "," :: rest => elements fuel false rest
          | rest => .error (Problem.at rest)
        else .error .invalid
      | rest => .error (afterElement fuel shape ts rest)

/-- The members of a set or of pairs up to the closing bracket; the kind is known after the first
member. -/
def members : (fuel : Nat) → (pairs : Option Bool) → List Token → Except Problem (List Token)
  | 0, _, _ => .error .invalid
  | fuel + 1, pairs, ts =>
    match ts with
    | .sign "\x7d" :: rest => .ok rest
    | ts => do
      let (shape, rest) ← expression fuel ts
      let more (pairs : Bool) (rest : List Token) : Except Problem (List Token) :=
        match rest with
        | .sign "\x7d" :: rest => .ok rest
        | .sign "," :: rest => members fuel (some pairs) rest
        | rest => .error (afterElement fuel shape ts rest)
      match rest with
      | .sign ":" :: value =>
        if pairs = some false then .error .invalid
        else
          match value with
          | .sign "\x7d" :: _ | .sign "," :: _ =>
            .error (.report "expression expected after dictionary key and ':'")
          | value => do
            let (_, rest) ← expression fuel value
            more true rest
      | rest =>
        if pairs = some true then
          match rest with
          | .sign "\x7d" :: _ | .sign "," :: _ =>
            .error (.report "':' expected after dictionary key")
          | rest => more true rest
        else more false rest

/-- The arguments of a call up to its closing bracket. -/
def arguments : (fuel : Nat) → List Token → Except Problem (List Token)
  | 0, _ => .error .invalid
  | fuel + 1, ts => do
    let named : Option (List Token) :=
      match ts with
      | .word w :: .sign "=" :: value => if keywords.contains w then none else some value
      | .sign "*" :: value | .sign "**" :: value => some value
      | _ => none
    match ts, named with
    | .sign ")" :: rest, _ => return rest
    | ts, named => do
      let (shape, rest) ← expression fuel (named.getD ts)
      match rest with
      | .sign ")" :: rest => return rest
      | .sign "," :: rest => arguments fuel rest
      | .sign "=" :: _ =>
        .error (.report "expression cannot contain assignment, perhaps you meant \"==\"?")
      | rest => .error (afterElement fuel shape (named.getD ts) rest)

end

/-- Several expressions with commas between them, up to the end. -/
def expressions (fuel : Nat) : (count : Nat) → List Token → Except Problem Unit
  | 0, _ => .error .invalid
  | count + 1, ts => do
    let (shape, rest) ← expression fuel ts
    match rest.dropWhile (· = .sign "\n") with
    | [] => return
    | .sign "," :: rest =>
      if (rest.dropWhile (· = .sign "\n")).isEmpty then return else expressions fuel count rest
    | rest => .error (neighbours fuel false shape ts rest)

/-- The problem of an expression. -/
def syntaxProblem? (s : List Char) : Option String :=
  match tokens (s.length + 1) [] (s.dropWhile fun c => c == ' ' || c == '\t') with
  | .error message => some message
  | .ok (ts, ending) =>
    match expressions (8 * ts.length + 8) (ts.length + 1) ts, ending with
    | .error (.report message), _ => some message
    | _, .broken message => some message
    | _, .brackets (b :: _) => some ("'" ++ String.ofList [b] ++ "' was never closed")
    | .ok (), .brackets [] => none
    | .error .ended, .brackets [] => some "invalid syntax"

/-- The arguments of a handler: those after its name, none if there is only a name, and else the
whole handler. -/
def argumentsOf (handler : List Char) : List Char :=
  match handler.dropWhile fun c => Text.isWord c || c == '.' with
  | [] => ['(', ')']
  | rest =>
    if rest.head? = some '(' ∧ rest.getLast? = some ')' ∧ !rest.contains '\n' then rest
    else handler

/-- Why a handler cannot be read. -/
def problem? (handler : List Char) : Option String :=
  let arguments := argumentsOf (Text.trim handler)
  (syntaxProblem? arguments).map fun reason =>
    "error parsing " ++ String.ofList (Text.quoted arguments) ++ " in " ++
      String.ofList (Text.quoted handler) ++ "; " ++ reason

end MetricFrames.Handler
