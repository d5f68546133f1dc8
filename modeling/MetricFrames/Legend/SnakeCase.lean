import MetricFrames.Text.LowerCase

/-!
# Snake case

Names written with inner capitals are turned into small letters with underscores: a capital gets an
underscore in front unless it stands first, or next to a capital that has got one.
-/

namespace MetricFrames.SnakeCase

/-- A capital of ASCII. -/
def isCapital (c : Char) : Bool := 'A' ≤ c && c ≤ 'Z'

/-- A small letter of ASCII. -/
def isSmall (c : Char) : Bool := 'a' ≤ c && c ≤ 'z'

/-- Puts an underscore between a character and a capital after it; the capital takes the small
letters that follow with it, and is not itself such a first character. -/
def separate : List Char → List Char
  | [] => []
  | [c] => [c]
  | c :: d :: s =>
    if c ≠ '\n' ∧ isCapital d then
      c :: '_' :: d :: s.takeWhile isSmall ++ separate (s.dropWhile isSmall)
    else c :: separate (d :: s)
termination_by s => s.length
decreasing_by
  · have := (List.dropWhile_suffix (l := s) isSmall).length_le
    simp only [List.length_cons]; omega
  · simp

/-- The name in snake case. -/
def ofName (s : List Char) : List Char := Text.lowerCase (separate s)

/-- The name in snake case. -/
def ofString (s : String) : String := String.ofList (ofName s.toList)

end MetricFrames.SnakeCase
