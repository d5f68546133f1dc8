/-!
# Generated ids

A query without an id is named by its position the way the columns of a spreadsheet are: `A` to `Z`,
then `AA`, `AB` and so on.
-/

namespace MetricFrames.RefId

/-- How many letters there are. -/
def letterCount : Nat := 26

/-- The capital letter with a number. -/
def letter (n : Nat) : Char := Char.ofNat (65 + n)

/-- The letters of a position, in front of letters that are already written. -/
def lettersBefore (n : Nat) (written : List Char) : List Char :=
  let written := letter (n % letterCount) :: written
  if n < letterCount then written else lettersBefore (n / letterCount - 1) written
termination_by n
decreasing_by simp only [letterCount] at *; omega

/-- The id of a position. -/
def ofIndex (n : Nat) : String := String.ofList (lettersBefore n [])

/-- The id of a position that may lie before the first one, where there are no letters. -/
def ofInt (i : Int) : String := if i < 0 then "" else ofIndex i.toNat

example : [0, 25, 26, 51, 52, 701, 702].map ofIndex =
    ["A", "Z", "AA", "AZ", "BA", "ZZ", "AAA"] := by decide +kernel

end MetricFrames.RefId
