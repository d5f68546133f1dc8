import MetricFrames.Console.Table

/-!
# Reports

What a command prints is a report: lines, and whether the command failed. Messages are markup and
are wrapped at the width of the console on which they are printed.
-/

namespace MetricFrames.Console

/-- The lines that a command prints, and whether it failed. -/
structure Report where
  lines : List (List Char) := []
  failed : Bool := false

namespace Report

/-- The lines of a text on a console. -/
def printed (console : Nat) (s : List Char) : List (List Char) :=
  (wrapText true console s).map (cut console)

/-- The lines of a message in markup. -/
def message (console : Nat) (markup : List Char) : Except Fault (List (List Char)) :=
  (Markup.render markup).map (printed console)

/-- Markup in a style. -/
def styled (style : String) (markup : List Char) : List Char :=
  let tag := style.toList
  '[' :: tag ++ ']' :: markup ++ '[' :: '/' :: tag ++ [']']

/-- A text in markup, behind a label that is markup itself. -/
def labelled (label text : String) : List Char :=
  label.toList ++ ':' :: ' ' :: Markup.escape text.toList

/-- The exit code of a command with a report. -/
def exitCode (r : Report) : Nat := if r.failed then 1 else 0

/-- The text of a report: every line and its end. -/
def text (r : Report) : String := String.ofList (r.lines.flatMap fun line => line ++ ['\n'])

end Report
end MetricFrames.Console
