import MetricFrames.Console.Markup
import MetricFrames.Console.Wrapping
import MetricFrames.Data.Columns

/-!
# Tables

A table has a title, a header for each column, and rows of cells. Titles, headers and cells are
markup. A column is as wide as its widest line, with a space on both sides; the title stands in the
middle above the table and is wrapped if the table is narrow. Columns that are too wide together for
the console give up cells, the widest first. A table without columns prints as an empty line.
-/

namespace MetricFrames.Console

/-- A table; all its texts are markup. -/
structure Table where
  title : List Char
  headers : List (List Char)
  rows : List (List (List Char)) := []

/-- A column of texts that are printed: its header and its cells. -/
structure Column where
  header : List Char
  cells : List (List Char)

/-! ### Widths -/

namespace Widths

/-- A quotient, rounded; halves go to the even number. -/
def share (n parts : Nat) : Nat :=
  let q := n / parts
  let rest := 2 * (n % parts)
  if rest < parts ∨ (rest = parts ∧ q % 2 = 0) then q else q + 1

/-- Takes `excess` from some of the widths in equal parts, from each up to a limit of its own. -/
def reduce (excess parts : Nat) : List (Bool × Nat × Nat) → List Nat
  | [] => []
  | (gives, limit, width) :: others =>
    if gives ∧ 0 < limit then
      let part := min limit (share excess parts)
      (width - part) :: reduce (excess - part) (parts - 1) others
    else width :: reduce excess parts others

/-- The sum of widths. -/
def total (widths : List Nat) : Nat := widths.foldl (· + ·) 0

/-- Makes the widest columns as wide as the next ones, or less wide, until all fit. -/
def collapse (available : Nat) : (rounds : Nat) → List Nat → List Nat
  | 0, widths => widths
  | rounds + 1, widths =>
    let excess := total widths - available
    if excess = 0 then widths
    else
      let most := widths.foldl max 0
      let next := (widths.filter (· ≠ most)).foldl max 0
      let limit := min excess (most - next)
      collapse available rounds (reduce excess (widths.countP (· == most))
        (widths.map fun w => (w == most, limit, w)))

/-- The widths of columns that fit; what is left over is taken from all. -/
def fitting (available : Nat) (widths : List Nat) : List Nat :=
  if total widths ≤ available then widths
  else
    let collapsed := collapse available (widths.length + 1) widths
    let excess := total collapsed - available
    reduce excess (collapsed.countP (0 < ·)) (collapsed.map fun w => (true, w, w))

end Widths

namespace Table

/-- The characters that end a line when a width is measured. -/
def endsLine (c : Char) : Bool :=
  c == '\n' || (0x1C ≤ c.toNat && c.toNat ≤ 0x1E) || c.toNat == 0x85 || c.toNat == 0x2028 ||
    c.toNat == 0x2029

/-- The width of a text: that of its widest line. -/
def textWidth (s : List Char) : Nat :=
  ((Text.splitAt '\n' (s.map fun c => if endsLine c then '\n' else c)).map
    Text.cellWidth).foldl max 0

/-- The blanks beside a cell. -/
def padding : Nat := 2

/-- The width of a column with its blanks. -/
def columnWidth (c : Column) : Nat :=
  ((c.header :: c.cells).map textWidth).foldl max 0 + padding

/-- The lines of a cell in a column of a width, between blanks. If there is no room between them,
the cell is blank. -/
def cellLines (width : Nat) (s : List Char) : List (List Char) :=
  if width ≤ padding then [List.replicate width ' ']
  else
    (wrapText false (width - padding) s).map fun line => ' ' :: fit (width - padding) line ++ [' ']

/-- The columns of a table. -/
def columns (t : Table) : Except Fault (List Column) :=
  t.headers.zipIdx.mapM fun (header, i) => do
    let header ← Markup.render header
    let cells ← t.rows.mapM fun row => Markup.render ((row[i]?).getD [])
    return ⟨header, cells⟩

/-- The cells that the marks between columns take. -/
def markWidth (count : Nat) : Nat := count + 1

/-- The widths of columns on a console of a width. -/
def widths (console : Nat) (columns : List Column) : List Nat :=
  let available := console - markWidth columns.length
  Widths.fitting available (columns.map fun c => min available (columnWidth c))

/-- The marks of a horizontal line: at its start, in between, between columns, and at its end. -/
structure Rule where
  start : Char
  line : Char
  joint : Char
  stop : Char

/-- The line above the headers. -/
def top : Rule := ⟨'┏', '━', '┳', '┓'⟩

/-- The line between the headers and the rows. -/
def middle : Rule := ⟨'┡', '━', '╇', '┩'⟩

/-- The line below the rows. -/
def bottom : Rule := ⟨'└', '─', '┴', '┘'⟩

/-- A horizontal line over columns. -/
def Rule.over (r : Rule) (widths : List Nat) : List Char :=
  r.start :: Text.joinWith [r.joint] (widths.map fun w => List.replicate w r.line) ++ [r.stop]

/-- One line of cells between marks. -/
def lineOf (mark : Char) (cells : List (List Char)) : List Char :=
  mark :: Text.joinWith [mark] cells ++ [mark]

/-- The lines of a row: as many as its highest cell has. A lower one has blank lines below it, in
the header above it. -/
def rowLines (mark : Char) (isHeader : Bool) (widths : List Nat) (cells : List (List (List Char))) :
    List (List Char) :=
  let height := (cells.map List.length).foldl max 1
  let filled := List.zipWith (fun (width : Nat) (cell : List (List Char)) =>
    let blank := List.replicate (height - cell.length) (List.replicate width ' ')
    if isHeader then blank ++ cell else cell ++ blank) widths cells
  (List.range height).map fun i => lineOf mark (filled.map fun cell => (cell[i]?).getD [])

/-- The width of a table, from the widths of its columns. -/
def fullWidth (widths : List Nat) : Nat := Widths.total widths + markWidth widths.length

/-- The lines of a table, from its title and the widths and texts of its columns. -/
def layout (widths : List Nat) (title : List Char) (columns : List Column) : List (List Char) :=
  let inLines (cells : List (List Char)) : List (List (List Char)) :=
    List.zipWith cellLines widths cells
  let rows := (Columns.rows (columns.map Column.cells)).flatMap fun cells =>
    rowLines '│' false widths (inLines cells)
  (wrapText true (fullWidth widths) title).map (centre (fullWidth widths)) ++
    top.over widths :: rowLines '┃' true widths (inLines (columns.map Column.header)) ++
    middle.over widths :: rows ++ [bottom.over widths]

/-- The lines of a table on a console; all of them are cut if not even its marks fit. -/
def onConsole (console : Nat) (title : List Char) (columns : List Column) : List (List Char) :=
  let widths := widths console columns
  let lines := layout widths title columns
  if fullWidth widths ≤ console then lines else lines.map (cut console)

/-- The lines of a table. -/
def render (console : Nat) (t : Table) : Except Fault (List (List Char)) :=
  if t.headers.isEmpty then .ok [[]]
  else do
    let columns ← t.columns
    let title ← Markup.render t.title
    return onConsole console title columns

end Table
end MetricFrames.Console
