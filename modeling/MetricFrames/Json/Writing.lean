import MetricFrames.Data.Text
import MetricFrames.Text.Hex

/-!
# Writing JSON

Two forms: compact, with nothing between the tokens, and indented by two blanks. Texts are escaped
as far as JSON asks for, or, if `ascii` is set, so that only printable ASCII characters are left.
Timestamps are written as texts in the form of data.
-/

namespace MetricFrames.Json

/-- The style of numbers in JSON. -/
def numberStyle : NumberStyle := ⟨16, true, true, "NaN", "Infinity", "-Infinity"⟩

/-- A code unit as an escape. -/
def codeEscape (n : Nat) : List Char := '\\' :: 'u' :: Text.hex 4 n

/-- A character as one escape, or as the escapes of its two halves. -/
def unitEscapes (c : Char) : List Char :=
  if c.toNat < 0x10000 then codeEscape c.toNat
  else
    codeEscape (0xD800 + (c.toNat - 0x10000) / 0x400) ++
      codeEscape (0xDC00 + (c.toNat - 0x10000) % 0x400)

/-- A character inside a text. -/
def charText (ascii : Bool) (c : Char) : List Char :=
  if c = '"' then ['\\', '"']
  else if c = '\\' then ['\\', '\\']
  else if c = '\n' then ['\\', 'n']
  else if c = '\r' then ['\\', 'r']
  else if c = '\t' then ['\\', 't']
  else if c.toNat = 8 then ['\\', 'b']
  else if c.toNat = 12 then ['\\', 'f']
  else if c.toNat < 32 then codeEscape c.toNat
  else if ascii && 127 ≤ c.toNat then unitEscapes c
  else [c]

/-- A text between quotes. -/
def quoted (ascii : Bool) (s : List Char) : List Char :=
  '"' :: s.flatMap (charText ascii) ++ ['"']

/-- A value that is neither a list nor an object. -/
def atomText (ascii : Bool) : Data → List Char
  | .null => ['n', 'u', 'l', 'l']
  | .bool true => ['t', 'r', 'u', 'e']
  | .bool false => ['f', 'a', 'l', 's', 'e']
  | .int i => integerText i
  | .float x => x.render numberStyle
  | .text s => quoted ascii s.toList
  | .time t => quoted ascii t.isoText
  | .date d => quoted ascii (Timestamp.dateText 4 '-' d)
  | .list _ | .object _ | .mapping _ => []

mutual

/-- A value without any blanks. -/
def compact (ascii : Bool) : Data → List Char
  | .list items => '[' :: compactItems ascii items
  | .object members => '\x7b' :: compactMembers ascii members
  | .mapping members => '\x7b' :: compactPairs ascii members
  | d => atomText ascii d

/-- The items of a list and its closing bracket. -/
def compactItems (ascii : Bool) : List Data → List Char
  | [] => [']']
  | [d] => compact ascii d ++ [']']
  | d :: ds => compact ascii d ++ ',' :: compactItems ascii ds

/-- The members of an object and its closing bracket. -/
def compactMembers (ascii : Bool) : List (String × Data) → List Char
  | [] => ['\x7d']
  | [(name, d)] => quoted ascii name.toList ++ ':' :: compact ascii d ++ ['\x7d']
  | (name, d) :: ms =>
    quoted ascii name.toList ++ ':' :: compact ascii d ++ ',' :: compactMembers ascii ms

/-- The entries of a mapping, with their keys as texts, and its closing bracket. -/
def compactPairs (ascii : Bool) : List (Data × Data) → List Char
  | [] => ['\x7d']
  | [(key, d)] => quoted ascii key.shown ++ ':' :: compact ascii d ++ ['\x7d']
  | (key, d) :: ms =>
    quoted ascii key.shown ++ ':' :: compact ascii d ++ ',' :: compactPairs ascii ms

end

/-- A new line with the blanks of a level. -/
def newLine (level : Nat) : List Char := '\n' :: List.replicate (2 * level) ' '

mutual

/-- A value over several lines; `level` counts the brackets around it. Only printable ASCII
characters are left. -/
def indented (level : Nat) : Data → List Char
  | .list [] => ['[', ']']
  | .list items => '[' :: newLine (level + 1) ++ indentedItems level items
  | .object [] | .mapping [] => ['\x7b', '\x7d']
  | .object members => '\x7b' :: newLine (level + 1) ++ indentedMembers level members
  | .mapping members => '\x7b' :: newLine (level + 1) ++ indentedPairs level members
  | d => atomText true d

/-- The items of a list, one a line, and its closing bracket. -/
def indentedItems (level : Nat) : List Data → List Char
  | [] => newLine level ++ [']']
  | [d] => indented (level + 1) d ++ newLine level ++ [']']
  | d :: ds => indented (level + 1) d ++ ',' :: newLine (level + 1) ++ indentedItems level ds

/-- The members of an object, one a line, and its closing bracket. -/
def indentedMembers (level : Nat) : List (String × Data) → List Char
  | [] => newLine level ++ ['\x7d']
  | [(name, d)] =>
    quoted true name.toList ++ ':' :: ' ' :: indented (level + 1) d ++ newLine level ++ ['\x7d']
  | (name, d) :: ms =>
    quoted true name.toList ++ ':' :: ' ' :: indented (level + 1) d ++
      ',' :: newLine (level + 1) ++ indentedMembers level ms

/-- The entries of a mapping, one a line, and its closing bracket. -/
def indentedPairs (level : Nat) : List (Data × Data) → List Char
  | [] => newLine level ++ ['\x7d']
  | [(key, d)] =>
    quoted true key.shown ++ ':' :: ' ' :: indented (level + 1) d ++ newLine level ++ ['\x7d']
  | (key, d) :: ms =>
    quoted true key.shown ++ ':' :: ' ' :: indented (level + 1) d ++
      ',' :: newLine (level + 1) ++ indentedPairs level ms

end

end MetricFrames.Json
