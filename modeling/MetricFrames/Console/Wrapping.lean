import MetricFrames.Text.Blank
import MetricFrames.Text.CellWidth
import MetricFrames.Text.Search

/-!
# Wrapping lines

A line that is wider than its place is broken between words. A word keeps the blanks around it, so
the lines together hold all of the text. A word that is wider than a whole line is folded between
clusters of characters, or stays whole and is cut with an ellipsis where the line is printed.
-/

namespace MetricFrames.Console

/-- The words of a line, each with the blanks after it and the first one also with those before. -/
def words (s : List Char) : List (List Char) :=
  let body := s.dropWhile Text.isBlank
  let lead := s.takeWhile Text.isBlank
  match go body with
  | [] => []
  | word :: others => (lead ++ word) :: others
where
  /-- The words of a line that starts with one. -/
  go : List Char → List (List Char)
    | [] => []
    | [c] => [[c]]
    | c :: d :: s =>
      match go (d :: s) with
      | [] => [[c, d]]
      | word :: others =>
        if Text.isBlank c && !Text.isBlank d then [c] :: word :: others
        else (c :: word) :: others

/-- Pieces of a word that fit a width, as long as possible. -/
def fold (width used : Nat) : List Text.Cluster → List (List Char)
  | [] => [[]]
  | k :: ks =>
    if width < used + k.width then
      match fold width k.width ks with
      | [] => [[], k.chars]
      | piece :: pieces => [] :: (k.chars ++ piece) :: pieces
    else
      match fold width (used + k.width) ks with
      | [] => [k.chars]
      | piece :: pieces => (k.chars ++ piece) :: pieces

/-- A word without the blanks at its end. -/
def withoutEnd (word : List Char) : List Char := (word.reverse.dropWhile Text.isBlank).reverse

/-- Lines that are complete, the last one first, and the words of the line that is being filled, the
last one first, with the cells they take. -/
structure Filling where
  done : List (List Char) := []
  line : List (List Char) := []
  used : Nat := 0

/-- The present line. -/
def Filling.text (f : Filling) : List Char := f.line.reverse.flatten

/-- Starts a new line, unless the present one is the first and empty. -/
def Filling.break (f : Filling) : Filling :=
  if f.done.isEmpty && f.line.isEmpty then f else { done := f.text :: f.done }

/-- Adds a word to the present line. -/
def Filling.add (f : Filling) (word : List Char) : Filling :=
  { f with line := word :: f.line, used := f.used + Text.cellWidth word }

/-- Adds a word where it fits. -/
def Filling.place (folds : Bool) (width : Nat) (f : Filling) (word : List Char) : Filling :=
  let w := Text.cellWidth (withoutEnd word)
  if f.used + w ≤ width then f.add word
  else if w ≤ width || !folds then { f.break with used := 0 }.add word
  else
    (fold width 0 (Text.clusters word)).foldl
      (fun f piece => { f.break with used := 0 }.add piece) f

/-- Wraps one line to a width. -/
def wrap (folds : Bool) (width : Nat) (line : List Char) : List (List Char) :=
  if (words line).isEmpty then [line]
  else
    let f := (words line).foldl (Filling.place folds width) {}
    (f.text :: f.done).reverse

/-- The distance of tab stops. -/
def tabStop : Nat := 8

/-- Puts spaces in the place of the tabs between the parts of a line, at least one for each and as
many as lead to the next stop. -/
def expandParts : List (List Char) → List Char
  | [] => []
  | [part] => part
  | part :: parts =>
    let shown := part ++ [' ']
    let rest := Text.cellWidth shown % tabStop
    shown ++ List.replicate (if rest = 0 then 0 else tabStop - rest) ' ' ++ expandParts parts

/-- A line without tabs. -/
def expandTabs (line : List Char) : List Char := expandParts (Text.splitAt '\t' line)

/-- Drops blanks at the end of a line as far as it has more characters than a width. -/
def dropExcess (width : Nat) (line : List Char) : List Char :=
  let blanks := line.length - (withoutEnd line).length
  line.take (line.length - min blanks (line.length - width))

/-- The lines of a text, wrapped to a width. -/
def wrapText (folds : Bool) (width : Nat) (s : List Char) : List (List Char) :=
  (Text.splitAt '\n' s).flatMap fun line =>
    (wrap folds width (expandTabs line)).map (dropExcess width)

/-- A line in a place of a width; what is too wide is cut with an ellipsis. -/
def fit (width : Nat) (line : List Char) : List Char :=
  if Text.cellWidth line ≤ width then
    line ++ List.replicate (width - Text.cellWidth line) ' '
  else Text.crop (width - 1) line ++ ['…']

/-- As much of a line as fits a width. -/
def cut (width : Nat) (line : List Char) : List Char :=
  if Text.cellWidth line ≤ width then line else Text.crop width line

/-- A line in the middle of a width. -/
def centre (width : Nat) (line : List Char) : List Char :=
  let body := cut width (withoutEnd line)
  List.replicate ((width - Text.cellWidth body) / 2) ' ' ++ body

end MetricFrames.Console
