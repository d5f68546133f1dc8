import MetricFrames.Text.Hex
import MetricFrames.Text.Printable

/-!
# Quoted text in messages

A text that a message cites stands between single quotes, or between double quotes if it holds
single ones only. Inside, the backslash and the chosen quote are escaped, and so is every
character that cannot be shown.
-/

namespace MetricFrames.Text

/-- The quote that a cited text gets. -/
def quoteFor (s : List Char) : Char :=
  if s.contains '\'' && !s.contains '"' then '"' else '\''

/-- One character between quotes of the given kind. -/
def quoteChar (quote c : Char) : List Char :=
  if c = quote || c = '\\' then ['\\', c]
  else if c = '\t' then ['\\', 't']
  else if c = '\n' then ['\\', 'n']
  else if c = '\r' then ['\\', 'r']
  else if isPrintable c then [c]
  else if c.toNat < 0x100 then '\\' :: 'x' :: hex 2 c.toNat
  else if c.toNat < 0x10000 then '\\' :: 'u' :: hex 4 c.toNat
  else '\\' :: 'U' :: hex 8 c.toNat

/-- A text as a message cites it. -/
def quoted (s : List Char) : List Char :=
  quoteFor s :: s.flatMap (quoteChar (quoteFor s)) ++ [quoteFor s]

end MetricFrames.Text
