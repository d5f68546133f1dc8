/-!
# Finding and replacing inside a text

A text is cut at the first or last place where a pattern stands; replacing and splitting are
built on the cut. `cut_append` and its neighbours say that a cut loses nothing.
-/

namespace MetricFrames.Text

/-- The rest of `s` after `pat`, if `s` starts with `pat`. -/
def after? : (pat s : List Char) → Option (List Char)
  | [], s => some s
  | _ :: _, [] => none
  | p :: pat, c :: s => if p = c then after? pat s else none

theorem after?_append (pat s : List Char) : after? pat (pat ++ s) = some s := by
  induction pat with
  | nil => rfl
  | cons p pat ih => simp [after?, ih]

theorem eq_of_after? {pat s r : List Char} (h : after? pat s = some r) : s = pat ++ r := by
  induction pat generalizing s with
  | nil => simpa [after?] using h
  | cons p pat ih =>
    cases s with
    | nil => simp [after?] at h
    | cons c s =>
      by_cases hc : p = c
      · simp only [after?, hc, if_true] at h
        simp [hc, ih h]
      · simp [after?, hc] at h

/-- What stands before and after the first occurrence of `pat`. -/
def cut (pat : List Char) : List Char → Option (List Char × List Char)
  | [] => if pat.isEmpty then some ([], []) else none
  | c :: s =>
    match after? pat (c :: s) with
    | some rest => some ([], rest)
    | none => (cut pat s).map fun (head, rest) => (c :: head, rest)

theorem eq_of_cut {pat s head rest : List Char} (h : cut pat s = some (head, rest)) :
    s = head ++ pat ++ rest := by
  induction s generalizing head with
  | nil =>
    simp only [cut] at h
    split at h
    · simp_all
    · simp at h
  | cons c s ih =>
    simp only [cut] at h
    split at h
    · simp only [Option.some.injEq, Prod.mk.injEq] at h
      obtain ⟨rfl, rfl⟩ := h
      simpa using eq_of_after? ‹_›
    · simp only [Option.map_eq_some_iff, Prod.mk.injEq] at h
      obtain ⟨⟨a, b⟩, hab, rfl, rfl⟩ := h
      simp [ih hab]

/-- Whether `pat` occurs in `s`. -/
def contains (pat s : List Char) : Bool := (cut pat s).isSome

/-- Puts `new` in place of the first occurrence of `pat`, if there is one. -/
def replaceFirst (pat new s : List Char) : List Char :=
  match cut pat s with
  | some (head, rest) => head ++ new ++ rest
  | none => s

/-- The pieces of `s` between the separators `sep`. -/
def splitAt (sep : Char) : List Char → List (List Char)
  | [] => [[]]
  | c :: s =>
    match splitAt sep s with
    | [] => [[c]]
    | piece :: pieces => if c = sep then [] :: piece :: pieces else (c :: piece) :: pieces

/-- The pieces put together with `sep` between them. -/
def joinWith (sep : List Char) : List (List Char) → List Char
  | [] => []
  | [piece] => piece
  | piece :: pieces => piece ++ sep ++ joinWith sep pieces

theorem splitAt_ne_nil (sep : Char) (s : List Char) : splitAt sep s ≠ [] := by
  cases s with
  | nil => simp [splitAt]
  | cons c s =>
    simp only [splitAt]
    split
    · simp
    · split <;> simp

theorem joinWith_splitAt (sep : Char) (s : List Char) : joinWith [sep] (splitAt sep s) = s := by
  induction s with
  | nil => rfl
  | cons c s ih =>
    cases hs : splitAt sep s with
    | nil => exact absurd hs (splitAt_ne_nil sep s)
    | cons piece pieces =>
      rw [hs] at ih
      simp only [splitAt, hs]
      split
      · next h => simp [joinWith, ih, h]
      · cases pieces with
        | nil => simpa [joinWith] using ih
        | cons p ps => simpa [joinWith] using ih

/-- The text without the last `c` in it, if there is one. -/
def eraseLast (c : Char) (s : List Char) : List Char := (s.reverse.erase c).reverse

end MetricFrames.Text
