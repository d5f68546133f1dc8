/-!
# Ranges of code points

A character class of many scripts is a list of closed ranges of code points.
-/

namespace MetricFrames.Text

/-- Closed ranges of code points. -/
abbrev CodePoints := List (Nat × Nat)

/-- Whether a character lies in one of the ranges. -/
def CodePoints.has (ranges : CodePoints) (c : Char) : Bool :=
  ranges.any fun (first, last) => first ≤ c.toNat && c.toNat ≤ last

end MetricFrames.Text
