import MetricFrames.Json.Reading
import MetricFrames.Text.Hex

/-!
# Encodings of JSON documents

A document arrives as bytes. Its first two characters are ASCII, so the zero bytes among the first
four tell in which encoding it is written (`Encoding.detect`); UTF-8 may have a mark of three bytes
in front. Bytes that are no characters of the encoding are a problem, but half of a surrogate pair
may stand alone as it may in an escape.
-/

namespace MetricFrames.Json

/-- An encoding; the wider ones put the high or the low byte first. -/
inductive Encoding where
  | utf8
  | utf16 (highFirst : Bool)
  | utf32 (highFirst : Bool)
  deriving DecidableEq

/-- The mark that may stand before UTF-8. -/
def byteMark : List Nat := [0xEF, 0xBB, 0xBF]

namespace Encoding

/-- The encoding of the bytes of a document. -/
def detect : List Nat → Encoding
  | [0, _] => .utf16 true
  | [_, 0] => .utf16 false
  | 0 :: b :: _ :: _ :: _ => if b = 0 then .utf32 true else .utf16 true
  | _ :: 0 :: c :: d :: _ => if c = 0 ∧ d = 0 then .utf32 false else .utf16 false
  | _ => .utf8

/-- The name of an encoding. -/
def name : Encoding → String
  | .utf8 => "utf-8"
  | .utf16 highFirst => if highFirst then "utf-16-be" else "utf-16-le"
  | .utf32 highFirst => if highFirst then "utf-32-be" else "utf-32-le"

/-- How many bytes a unit has. -/
def unitWidth : Encoding → Nat
  | .utf8 => 1
  | .utf16 _ => 2
  | .utf32 _ => 4

/-- The number in the bytes of a unit. -/
def unitValue (e : Encoding) (bytes : List Nat) : Nat :=
  let highFirst :=
    match e with
    | .utf8 => true
    | .utf16 b | .utf32 b => b
  (if highFirst then bytes else bytes.reverse).foldl (fun n b => n * 256 + b) 0

end Encoding

/-- Bytes that are no character: from where to where they stand, and why. -/
structure Undecodable where
  encoding : Encoding
  start : Nat
  bytes : List Nat
  reason : String
  deriving DecidableEq

/-- The report on bytes that are no character. -/
def Undecodable.message (u : Undecodable) : String :=
  let place :=
    match u.bytes with
    | [b] => "byte 0x" ++ String.ofList (Text.hex 2 b) ++ " in position " ++ toString u.start
    | bytes =>
      "bytes in position " ++ toString u.start ++ "-" ++ toString (u.start + bytes.length - 1)
  "'" ++ u.encoding.name ++ "' codec can't decode " ++ place ++ ": " ++ u.reason

namespace Encoding

/-- The units in bytes, which stand from `start` on. -/
def units (e : Encoding) (start : Nat) (bytes : List Nat) : Except Undecodable (List Nat) :=
  if _h : e.unitWidth ≤ bytes.length ∧ 0 < e.unitWidth then
    let unit := bytes.take e.unitWidth
    let n := e.unitValue unit
    if 0x10FFFF < n then .error ⟨e, start, unit, "code point not in range(0x110000)"⟩
    else (units e (start + e.unitWidth) (bytes.drop e.unitWidth)).map (n :: ·)
  else if bytes.isEmpty then .ok []
  else .error ⟨e, start, bytes, "truncated data"⟩
termination_by bytes.length
decreasing_by simp only [List.length_drop]; omega

/-- The characters of units, of which two halves of a pair make one. -/
def characters : List Nat → List Char
  | [] => []
  | [n] => [single n]
  | n :: m :: ns =>
    if isHighHalf n && isLowHalf m then Char.ofNat (joinHalves n m) :: characters ns
    else single n :: characters (m :: ns)
where
  /-- The character of a unit by itself. -/
  single (n : Nat) : Char := if isHighHalf n || isLowHalf n then loneHalf n else Char.ofNat n

end Encoding

/-- The text of a document, of which the bytes are given as UTF-8 text. -/
def documentText (body : String) : Except Undecodable (List Char) :=
  let bytes := body.toUTF8.toList.map UInt8.toNat
  let encoding := Encoding.detect bytes
  match encoding with
  | .utf8 => .ok (if byteMark.isPrefixOf bytes then body.toList.drop 1 else body.toList)
  | _ => (encoding.units 0 bytes).map Encoding.characters

example : Encoding.detect [0x5B, 0, 0x5D, 0] = .utf16 false ∧
    Encoding.detect [0, 0, 0, 0x31] = .utf32 true ∧
    Encoding.detect [0x7B, 0x7D] = .utf8 := by decide

end MetricFrames.Json
