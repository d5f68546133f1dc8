import MetricFrames.Text.Hex
import MetricFrames.Text.Search

/-!
# Form encoding

The query part of an address is a list of named values in form encoding: letters, digits and four
marks stand for themselves, a space is written `+`, and every other character as its UTF-8 bytes,
each a percent sign with two hexadecimal digits.
-/

namespace MetricFrames.Web

/-- Letters, digits and the marks that stand for themselves everywhere in an address. -/
def isUnreserved (c : Char) : Bool :=
  c.isAlphanum || c == '-' || c == '.' || c == '_' || c == '~'

/-- A byte as a percent sign and two digits. -/
def percentByte (b : UInt8) : List Char := '%' :: Text.hexUpper 2 b.toNat

/-- A character as its percent-encoded bytes. -/
def percentChar (c : Char) : List Char := (String.utf8EncodeChar c).flatMap percentByte

/-- A character of a form value. -/
def formChar (c : Char) : List Char :=
  if isUnreserved c then [c] else if c = ' ' then ['+'] else percentChar c

/-- A form value. -/
def formText (s : List Char) : List Char := s.flatMap formChar

/-- A name with its value. -/
def formPair (p : String × String) : List Char :=
  formText p.1.toList ++ '=' :: formText p.2.toList

/-- Named values in form encoding, in the order given. -/
def formEncode (ps : List (String × String)) : List Char :=
  Text.joinWith ['&'] (ps.map formPair)

end MetricFrames.Web
