import MetricFrames.Console.Emoji
import MetricFrames.Console.Handler
import MetricFrames.Console.Style

/-!
# Markup

What is printed may hold tags in brackets that set a style up to a closing tag. Styles are not shown
here, so all that is left of a tag is nothing; but a closing tag that has nothing to close is a
fault. A backslash before a tag takes it as text. Between the tags codes of emoji are replaced.
`escape` turns any text into markup for itself, but for such codes.
-/

namespace MetricFrames.Markup

/-- A character with which a tag may start. -/
def startsTag (c : Char) : Bool := ('a' ≤ c && c ≤ 'z') || c == '#' || c == '/' || c == '@'

/-- A character inside a tag. -/
def isInside (c : Char) : Bool := c != ']' && c != '['

/-- The inside of a tag whose opening bracket was read, and what follows its closing bracket. -/
def tagInside? : List Char → Option (List Char × List Char)
  | [] => none
  | c :: s =>
    if startsTag c then
      match s.dropWhile isInside with
      | ']' :: rest => some (c :: s.takeWhile isInside, rest)
      | _ => none
    else none

/-- The tag that starts here, with the count of backslashes before it. -/
def tagHere? : List Char → Option (Nat × List Char × List Char)
  | [] => none
  | '\\' :: s => (tagHere? s).map fun (n, inside, rest) => (n + 1, inside, rest)
  | '[' :: s => (tagInside? s).map fun (inside, rest) => (0, inside, rest)
  | _ :: _ => none

theorem length_of_tagInside? {s inside rest : List Char} (h : tagInside? s = some (inside, rest)) :
    rest.length < s.length := by
  cases s with
  | nil => simp [tagInside?] at h
  | cons c s =>
    simp only [tagInside?] at h
    split at h
    · split at h
      · next r hs =>
        simp only [Option.some.injEq, Prod.mk.injEq] at h
        obtain ⟨-, rfl⟩ := h
        have hd := (List.dropWhile_suffix (l := s) isInside).length_le
        rw [hs] at hd
        simp only [List.length_cons] at *
        omega
      · simp at h
    · simp at h

theorem length_of_tagHere? {s inside rest : List Char} {n : Nat}
    (h : tagHere? s = some (n, inside, rest)) : rest.length < s.length := by
  induction s generalizing n inside rest with
  | nil => simp [tagHere?] at h
  | cons c s ih =>
    unfold tagHere? at h
    split at h
    · simp at h
    · next t heq =>
      simp only [List.cons.injEq] at heq
      obtain ⟨-, rfl⟩ := heq
      simp only [Option.map_eq_some_iff, Prod.mk.injEq] at h
      obtain ⟨⟨m, i, r⟩, hm, -, -, rfl⟩ := h
      have : r.length < s.length := ih hm
      show r.length < (c :: s).length
      simp only [List.length_cons]; omega
    · next t heq =>
      simp only [List.cons.injEq] at heq
      obtain ⟨-, rfl⟩ := heq
      simp only [Option.map_eq_some_iff, Prod.mk.injEq] at h
      obtain ⟨⟨i, r⟩, hi, -, -, rfl⟩ := h
      have : r.length < s.length := length_of_tagInside? hi
      show r.length < (c :: s).length
      simp only [List.length_cons]; omega
    · simp at h

/-! ### Escaping -/

/-- Doubles the backslashes before each tag and adds one more. -/
def escapeTags : List Char → List Char
  | [] => []
  | c :: s =>
    match h : tagHere? (c :: s) with
    | some (n, inside, rest) =>
      have := length_of_tagHere? h
      List.replicate (2 * n + 1) '\\' ++ '[' :: inside ++ ']' :: escapeTags rest
    | none => c :: escapeTags s
termination_by s => s.length
decreasing_by all_goals simp only [List.length_cons] at *; omega

/-- Whether a text ends in exactly one backslash. -/
def endsInBackslash (s : List Char) : Bool :=
  match s.reverse with
  | '\\' :: '\\' :: _ => false
  | '\\' :: _ => true
  | _ => false

/-- The markup of which the given text is left. -/
def escape (s : List Char) : List Char :=
  let t := escapeTags s
  if endsInBackslash t then t ++ ['\\'] else t

/-! ### Rendering -/

/-- A piece of markup: a text, or a tag with its position. -/
inductive Piece where
  | text (s : List Char)
  | tag (position : Nat) (inside : List Char)
  deriving DecidableEq

/-- The pieces of markup; `before` was read already, the last character first. Of the backslashes
before a tag half are left, and an odd one takes the tag as text; a backslash before another bracket
is dropped. -/
def pieces (position : Nat) (before : List Char) : List Char → List Piece
  | [] => [.text before.reverse]
  | c :: s =>
    match h : tagHere? (c :: s) with
    | some (n, inside, rest) =>
      have := length_of_tagHere? h
      let next := pieces (position + ((c :: s).length - rest.length)) [] rest
      .text before.reverse :: .text (List.replicate (n / 2) '\\') ::
        (if n % 2 = 1 then .text ('[' :: inside ++ [']']) else .tag (position + n) inside) :: next
    | none =>
      if c = '\\' ∧ s.head? = some '[' then pieces (position + 1) before s
      else pieces (position + 1) (c :: before) s
termination_by s => s.length
decreasing_by all_goals simp only [List.length_cons] at *; omega

/-- A style that is open: its name, and what follows an equals sign in the tag. -/
structure OpenStyle where
  name : List Char
  parameters : List Char
  deriving DecidableEq

/-- Closes the style with a name that was opened last: that style, and those that stay open. -/
def closeStyle? (name : List Char) : List OpenStyle → Option (OpenStyle × List OpenStyle)
  | [] => none
  | style :: styles =>
    if style.name = name then some (style, styles)
    else (closeStyle? name styles).map fun (found, others) => (found, style :: others)

/-- The handler of a style that is closed has to be readable. -/
def checkHandler (style : OpenStyle) : Except Fault Unit :=
  if style.name.head? = some '@' ∧ !style.parameters.isEmpty then
    match Handler.problem? style.parameters with
    | some reason => .error (.unreadableHandler reason)
    | none => .ok ()
  else .ok ()

/-- The styles that are open after a tag. -/
def afterTag (position : Nat) (inside : List Char) (styles : List OpenStyle) :
    Except Fault (List OpenStyle) := do
  let (name, parameters) := inside.span (· != '=')
  match name with
  | '/' :: closing =>
    let closing := Text.trim closing
    if closing.isEmpty then
      match styles with
      | [] => .error (.nothingToClose "[/]" position)
      | style :: styles =>
        checkHandler style
        return styles
    else
      match closeStyle? (← Style.name closing) styles with
      | some (style, styles) =>
        checkHandler style
        return styles
      | none => .error (.strayClosingTag (String.ofList ('[' :: inside ++ [']'])) position)
  | name => return ⟨← Style.name name, parameters.drop 1⟩ :: styles

/-- The characters that are left of pieces; `styles` are open, the last one first. -/
def textOf (styles : List OpenStyle) : List Piece → Except Fault (List Char)
  | [] => .ok []
  | .text s :: ps => (textOf styles ps).map (Emoji.replace s ++ ·)
  | .tag position inside :: ps =>
    match afterTag position inside styles with
    | .ok styles => textOf styles ps
    | .error f => .error f

/-- The controls that are never printed: bell, backspace, vertical tab, form feed and return. -/
def isSilent (c : Char) : Bool := [7, 8, 11, 12, 13].contains c.toNat

/-- What is printed of markup. -/
def render (markup : List Char) : Except Fault (List Char) :=
  (textOf [] (pieces 0 [] markup)).map fun s => s.filter fun c => !isSilent c

end MetricFrames.Markup
