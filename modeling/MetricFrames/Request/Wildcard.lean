import MetricFrames.Text.Search

/-!
# Wildcards

A filter value with stars is a pattern. A star at one end or at both ends becomes a test for the
end, the start or a part of the text; stars elsewhere become a regular expression, in which every
character that the regular expressions reserve is escaped.
-/

namespace MetricFrames.Wildcard

/-- The characters that regular expressions reserve, the star aside. -/
def reserved : List Char :=
  ['-', '/', '^', '$', '+', '?', '.', '(', ')', '|', '[', ']', '\x7b', '\x7d']

/-- One character of a pattern inside a regular expression inside quotes. -/
def expressionChar (c : Char) : List Char :=
  if c = '*' then ['.', '*']
  else if c = '"' || reserved.contains c then ['\\', '\\', c]
  else [c]

/-- A call of a function of the filter language with one text. -/
def call (function : String) (argument : List Char) : List Char :=
  function.toList ++ '(' :: '"' :: argument ++ ['"', ')']

/-- The test for a regular expression that has to match all of the text. -/
def matchCall (expression : List Char) : List Char :=
  call "monitoring.regex.full_match" expression

/-- What a value means as a pattern. A value without stars stays as it is. -/
def interpolate (value : List Char) : List Char :=
  let stars := value.count '*'
  let starts := value.head? == some '*'
  let stops := value.getLast? == some '*'
  if stars = 2 ∧ starts ∧ stops then call "has_substring" (value.filter (· != '*'))
  else if stars = 1 ∧ starts then call "ends_with" (value.drop 1)
  else if stars = 1 ∧ stops then call "starts_with" value.dropLast
  else if stars ≠ 0 then matchCall ('^' :: value.flatMap expressionChar ++ ['$'])
  else value

end MetricFrames.Wildcard
