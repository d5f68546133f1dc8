import MetricFrames.Text.Blank
import MetricFrames.Text.Search

/-!
# Templates

A template is text with placeholders between double braces. A placeholder closes as soon as it can
once it has a name of one character; the name has no line break in it and is trimmed. Expansion
goes over the template once, from left to right: a name that resolves is replaced by its value, any
other placeholder stays as it is written, and no value is looked at again.
-/

namespace MetricFrames.Template

/-- What follows closing braces that stand here, blanks before them aside. -/
def afterClose? (s : List Char) : Option (List Char) :=
  Text.after? ['\x7d', '\x7d'] (s.dropWhile Text.isBlank)

/-- The shortest name that starts here and is closed, and what follows its braces. -/
def nameHere? : List Char → Option (List Char × List Char)
  | [] => none
  | c :: s =>
    if c = '\n' then none
    else
      match afterClose? s with
      | some rest => some ([c], rest)
      | none => (nameHere? s).map fun (name, rest) => (c :: name, rest)

/-- The name after opening braces and what follows its closing braces. Blanks before the name are
skipped, as many of them as leave a name. -/
def name? : List Char → Option (List Char × List Char)
  | [] => none
  | c :: s =>
    if Text.isBlank c then
      match name? s with
      | some found => some found
      | none => nameHere? (c :: s)
    else nameHere? (c :: s)

theorem length_of_afterClose? {s rest : List Char} (h : afterClose? s = some rest) :
    rest.length ≤ s.length := by
  have := congrArg List.length (Text.eq_of_after? h)
  have := (List.dropWhile_suffix (l := s) Text.isBlank).length_le
  simp only [List.length_append] at *
  omega

theorem length_of_nameHere? {s name rest : List Char} (h : nameHere? s = some (name, rest)) :
    rest.length ≤ s.length := by
  induction s generalizing name with
  | nil => simp [nameHere?] at h
  | cons c s ih =>
    simp only [nameHere?] at h
    split at h
    · simp at h
    · split at h
      · next r hr =>
        simp only [Option.some.injEq, Prod.mk.injEq] at h
        obtain ⟨-, rfl⟩ := h
        have := length_of_afterClose? hr
        simp only [List.length_cons]; omega
      · simp only [Option.map_eq_some_iff, Prod.mk.injEq] at h
        obtain ⟨⟨n, r⟩, hn, -, rfl⟩ := h
        have : r.length ≤ s.length := ih hn
        show r.length ≤ s.length + 1
        omega

theorem length_of_name? {s name rest : List Char} (h : name? s = some (name, rest)) :
    rest.length ≤ s.length := by
  induction s generalizing name with
  | nil => simp [name?] at h
  | cons c s ih =>
    simp only [name?] at h
    split at h
    · split at h
      · next f hf =>
        simp only [Option.some.injEq] at h
        subst h
        have := ih hf
        simp only [List.length_cons]; omega
      · exact length_of_nameHere? h
    · exact length_of_nameHere? h

/-- A piece of a template: a character, or a placeholder with its trimmed name and as written. -/
inductive Segment where
  | literal (c : Char)
  | slot (name written : List Char)
  deriving DecidableEq

/-- The pieces of a template. -/
def segments : List Char → List Segment
  | [] => []
  | '\x7b' :: '\x7b' :: s =>
    match h : name? s with
    | some (name, rest) =>
      have := length_of_name? h
      let written := '\x7b' :: '\x7b' :: s.take (s.length - rest.length)
      .slot (Text.trim name) written :: segments rest
    | none => .literal '\x7b' :: segments ('\x7b' :: s)
  | c :: s => .literal c :: segments s
termination_by s => s.length
decreasing_by
  · simp only [List.length_cons]; omega
  · simp
  · simp

/-- A piece with its placeholder resolved. -/
def Segment.expand (resolve : List Char → Option (List Char)) : Segment → List Char
  | .literal c => [c]
  | .slot name written => (resolve name).getD written

/-- A template with its placeholders resolved. -/
def expand (resolve : List Char → Option (List Char)) (template : List Char) : List Char :=
  (segments template).flatMap (Segment.expand resolve)

end MetricFrames.Template
