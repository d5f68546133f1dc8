/-!
# Rows of columns

Columns are read row by row, up to the end of the shortest one.
-/

namespace MetricFrames.Columns

variable {α : Type}

/-- The first rows of columns, as many as asked for. -/
def firstRows : Nat → List (List α) → List (List α)
  | 0, _ => []
  | n + 1, columns => columns.filterMap List.head? :: firstRows n (columns.map List.tail)

/-- The rows of columns. -/
def rows (columns : List (List α)) : List (List α) :=
  match columns with
  | [] => []
  | column :: others => firstRows (others.foldl (fun n c => min n c.length) column.length) columns

@[simp] theorem length_firstRows (n : Nat) (columns : List (List α)) :
    (firstRows n columns).length = n := by
  induction n generalizing columns with
  | zero => rfl
  | succ n ih => simp [firstRows, ih]

example : rows [[1, 2, 3], [4, 5]] = [[1, 4], [2, 5]] := by decide

end MetricFrames.Columns
