import MetricFrames.Console.EmojiNames
import MetricFrames.Text.Blank
import MetricFrames.Text.Hex
import MetricFrames.Text.LowerCase
import MetricFrames.Text.Search

/-!
# Emoji in texts

A text may call an emoji by its name between colons; the name may end in a wish for the form of the
emoji. A name that no emoji has stays as it is, with both of its colons.
-/

namespace MetricFrames.Emoji

/-- A name with its emoji. -/
structure Entry where
  name : List Char
  emoji : List Char

/-- The entry of a word: a name, an equals sign, and code points with plus signs between them. -/
def readEntry (word : List Char) : Entry :=
  let (name, codes) := word.span (· != '=')
  ⟨name, (Text.splitAt '+' (codes.drop 1)).filterMap fun code =>
    (Text.readHex? code).map Char.ofNat⟩

/-- All names with their emoji. -/
def entries : List Entry :=
  nameRows.flatMap fun row => (Text.splitAt ' ' row.toList).map readEntry

/-- The emoji of a name, in any case. -/
def named? (name : List Char) : Option (List Char) :=
  let name := Text.lowerCase name
  (entries.find? fun e => e.name == name).map Entry.emoji

/-- The wishes for a form, each with the character that selects it. -/
def forms : List (List Char × Char) :=
  [("-emoji".toList, '\uFE0F'), ("-text".toList, '\uFE0E')]

/-- The emoji of a code, which is a name and perhaps a wish. -/
def ofCode? (code : List Char) : Option (List Char) :=
  match forms.find? fun (wish, _) => wish.isSuffixOf code with
  | some (wish, selector) =>
    (named? (code.take (code.length - wish.length))).map (· ++ [selector])
  | none => named? code

/-- Puts emoji in the place of their codes; `code` was read after a colon, the last character first,
if there is an open one. -/
def replaceAfter : (code : Option (List Char)) → List Char → List Char
  | none, [] => []
  | some code, [] => ':' :: code.reverse
  | none, c :: s => if c = ':' then replaceAfter (some []) s else c :: replaceAfter none s
  | some code, c :: s =>
    if c = ':' then
      (ofCode? code.reverse).getD (':' :: code.reverse ++ [':']) ++ replaceAfter none s
    else if Text.isBlank c then ':' :: code.reverse ++ c :: replaceAfter none s
    else replaceAfter (some (c :: code)) s

/-- A text with emoji in the place of their codes. -/
def replace (s : List Char) : List Char := replaceAfter none s

end MetricFrames.Emoji
