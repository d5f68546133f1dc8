import MetricFrames.Data.Text
import MetricFrames.Query.Basic
import MetricFrames.Request.Wildcard
import MetricFrames.Text.Blank

/-!
# Filters

A filter arrives as a flat list of tokens: groups of a key, an operator and a value, joined by the
word `AND`. The filter expression starts with the metric type; each group follows after a blank,
its parts written without separators and its value quoted, turned into a wildcard test or, for the
two matching operators, into a regular expression.
-/

namespace MetricFrames.Filter

/-- A list of tokens that cannot be groups joined by `AND`. -/
structure Malformed where
  tokens : List String
  deriving DecidableEq

/-- The wording of a malformed filter. -/
def Malformed.message (m : Malformed) : String :=
  "Malformed filter " ++ String.ofList (citedList m.tokens) ++
    ": expected key, operator, value groups joined by AND"

/-- The operators whose value is a regular expression. -/
def isMatching (operator : String) : Bool := operator == "=~" || operator == "!=~"

/-- A text between quotes. -/
def literal (s : List Char) : List Char := '"' :: s ++ ['"']

/-- A value after an operator that is not a matching one. -/
def valueText (value : List Char) : List Char :=
  if value.contains '*' then Wildcard.interpolate value else literal value

/-- Appends the tokens from position `i` on to the text so far; `previous` is the token before. A
matching operator was written with its tilde, which is taken out again when its value follows. -/
def append (i : Nat) (previous : String) (text : List Char) : List String → List Char
  | [] => text
  | token :: tokens =>
    let text' :=
      if token = "AND" then text ++ [' ']
      else if i % 4 = 2 then
        if isMatching previous then Text.eraseLast '~' text ++ Wildcard.matchCall token.toList
        else text ++ valueText token.toList
      else text ++ token.toList
    append (i + 1) token text' tokens

/-- The filter expression of a metric type and a list of tokens. -/
def build (metricType : String) (tokens : List String) : Except Malformed String :=
  if tokens ≠ [] ∧ tokens.length % 4 ≠ 0 ∧ tokens.length % 4 ≠ 3 then .error ⟨tokens⟩
  else
    let start := "metric.type=".toList ++ literal metricType.toList ++ [' ']
    .ok (String.ofList (Text.trimBy (· == ' ') (start ++ append 0 "" [] tokens)))

/-- The filter expression that selects one service level objective. -/
def objective (q : SloQuery) : String :=
  q.selectorName ++ "(\"projects/" ++ q.projectName ++ "/services/" ++ q.serviceId ++
    "/serviceLevelObjectives/" ++ q.sloId ++ "\")"

end MetricFrames.Filter
