import MetricFrames.Fault
import MetricFrames.Text.Blank
import MetricFrames.Text.Digit
import MetricFrames.Text.Hex
import MetricFrames.Text.LowerCase
import MetricFrames.Text.Search

/-!
# Names of styles

A style is named by words: attributes, which have short names too, a colour, a colour of the
background after `on`, and a link. The same style can be named in several ways; `Style.name` gives
the one name that all of them share. Words that are no style are a name by themselves.
-/

namespace MetricFrames.Style

/-- The attributes in order, each with its short names. -/
def attributeNames : List (String × List String) := [
  ("bold", ["b"]), ("dim", ["d"]), ("italic", ["i"]), ("underline", ["u"]), ("blink", []),
  ("blink2", []), ("reverse", ["r"]), ("conceal", ["c"]), ("strike", ["s"]),
  ("underline2", ["uu"]), ("frame", []), ("encircle", []), ("overline", ["o"])]

/-- The attribute of a word. -/
def attribute? (word : String) : Option String :=
  (attributeNames.find? fun (name, short) => name == word || short.contains word).map (·.1)

/-- The colours with names. -/
def colorNames : List String := [
  "black", "red", "green", "yellow", "blue", "magenta", "cyan", "white", "bright_black",
  "bright_red", "bright_green", "bright_yellow", "bright_blue", "bright_magenta", "bright_cyan",
  "bright_white", "grey0", "gray0", "navy_blue", "dark_blue", "blue3", "blue1", "dark_green",
  "deep_sky_blue4", "dodger_blue3", "dodger_blue2", "green4", "spring_green4", "turquoise4",
  "deep_sky_blue3", "dodger_blue1", "green3", "spring_green3", "dark_cyan", "light_sea_green",
  "deep_sky_blue2", "deep_sky_blue1", "spring_green2", "cyan3", "dark_turquoise", "turquoise2",
  "green1", "spring_green1", "medium_spring_green", "cyan2", "cyan1", "dark_red", "deep_pink4",
  "purple4", "purple3", "blue_violet", "orange4", "grey37", "gray37", "medium_purple4",
  "slate_blue3", "royal_blue1", "chartreuse4", "dark_sea_green4", "pale_turquoise4", "steel_blue",
  "steel_blue3", "cornflower_blue", "chartreuse3", "cadet_blue", "sky_blue3", "steel_blue1",
  "pale_green3", "sea_green3", "aquamarine3", "medium_turquoise", "chartreuse2", "sea_green2",
  "sea_green1", "aquamarine1", "dark_slate_gray2", "dark_magenta", "dark_violet", "purple",
  "light_pink4", "plum4", "medium_purple3", "slate_blue1", "yellow4", "wheat4", "grey53", "gray53",
  "light_slate_grey", "light_slate_gray", "medium_purple", "light_slate_blue", "dark_olive_green3",
  "dark_sea_green", "light_sky_blue3", "sky_blue2", "dark_sea_green3", "dark_slate_gray3",
  "sky_blue1", "chartreuse1", "light_green", "pale_green1", "dark_slate_gray1", "red3",
  "medium_violet_red", "magenta3", "dark_orange3", "indian_red", "hot_pink3", "medium_orchid3",
  "medium_orchid", "medium_purple2", "dark_goldenrod", "light_salmon3", "rosy_brown", "grey63",
  "gray63", "medium_purple1", "gold3", "dark_khaki", "navajo_white3", "grey69", "gray69",
  "light_steel_blue3", "light_steel_blue", "yellow3", "dark_sea_green2", "light_cyan3",
  "light_sky_blue1", "green_yellow", "dark_olive_green2", "dark_sea_green1", "pale_turquoise1",
  "deep_pink3", "magenta2", "hot_pink2", "orchid", "medium_orchid1", "orange3", "light_pink3",
  "pink3", "plum3", "violet", "light_goldenrod3", "tan", "misty_rose3", "thistle3", "plum2",
  "khaki3", "light_goldenrod2", "light_yellow3", "grey84", "gray84", "light_steel_blue1", "yellow2",
  "dark_olive_green1", "honeydew2", "light_cyan1", "red1", "deep_pink2", "deep_pink1", "magenta1",
  "orange_red1", "indian_red1", "hot_pink", "dark_orange", "salmon1", "light_coral",
  "pale_violet_red1", "orchid2", "orchid1", "orange1", "sandy_brown", "light_salmon1",
  "light_pink1", "pink1", "plum1", "gold1", "navajo_white1", "misty_rose1", "thistle1", "yellow1",
  "light_goldenrod1", "khaki1", "wheat1", "cornsilk1", "grey100", "gray100", "grey3", "gray3",
  "grey7", "gray7", "grey11", "gray11", "grey15", "gray15", "grey19", "gray19", "grey23", "gray23",
  "grey27", "gray27", "grey30", "gray30", "grey35", "gray35", "grey39", "gray39", "grey42",
  "gray42", "grey46", "gray46", "grey50", "gray50", "grey54", "gray54", "grey58", "gray58",
  "grey62", "gray62", "grey66", "gray66", "grey70", "gray70", "grey74", "gray74", "grey78",
  "gray78", "grey82", "gray82", "grey85", "gray85", "grey89", "gray89", "grey93", "gray93"]

/-- What stands between two given texts. -/
def inside? (opening closing : String) (s : List Char) : Option (List Char) :=
  if opening.toList.isPrefixOf s && closing.toList.isSuffixOf s then
    some ((s.drop opening.length).take (s.length - opening.length - closing.length))
  else none

/-- The number in digits of any script. -/
def numberOf (digits : List Char) : Except Fault Nat :=
  if digits.isEmpty then .error (.emptyNumeral 10)
  else if Fault.maxDigits < digits.length then .error (.tooManyDigits digits.length)
  else .ok (digits.foldl (fun n c => n * 10 + (Text.digitValue? c).getD 0) 0)

/-- Whether a word in small letters is a colour: one with a name, one of the numbered ones, or the
shares of red, green and blue. -/
def isColor (word : List Char) : Except Fault Bool :=
  if word = "default".toList || colorNames.contains (String.ofList word) then .ok true
  else
    match word with
    | '#' :: digits => .ok (digits.length == 6 && digits.all fun c => (Text.hexValue? c).isSome)
    | _ =>
      match inside? "color(" ")" word, inside? "rgb(" ")" word with
      | some digits, _ =>
        .ok (digits.all Char.isDigit && (digits.length == 1 || digits.length == 2 ||
          digits.length == 3) && (numberOf digits).toOption.any (· ≤ 255))
      | _, some shares =>
        if shares.isEmpty || !(shares.all fun c => Text.isDigit c || c == ',') then .ok false
        else
          match Text.splitAt ',' shares with
          | [r, g, b] => do
            let r ← numberOf r
            let g ← numberOf g
            let b ← numberOf b
            return r ≤ 255 && g ≤ 255 && b ≤ 255
          | _ => .ok false
      | _, _ => .ok false

/-- What the words of a style say. -/
structure Parts where
  attributes : List (String × Bool) := []
  color : Option (List Char) := none
  background : Option (List Char) := none
  link : Option (List Char) := none

/-- Sets an attribute. -/
def Parts.set (p : Parts) (name : String) (value : Bool) : Parts :=
  { p with attributes := (name, value) :: p.attributes.filter (·.1 ≠ name) }

/-- The parts that words name, if all of them belong to a style. -/
def Parts.read (p : Parts) : List (List Char) → Except Fault (Option Parts)
  | [] => .ok (some p)
  | word :: words =>
    let small := Text.lowerCase word
    if small = "on".toList then
      match words with
      | [] => .ok none
      | color :: words => do
        let color := Text.lowerCase color
        if ← isColor color then Parts.read { p with background := some color } words
        else return none
    else if small = "not".toList then
      match words with
      | [] => .ok none
      | word :: words =>
        match attribute? (String.ofList word) with
        | some name => (p.set name false).read words
        | none => .ok none
    else if small = "link".toList then
      match words with
      | [] => .ok none
      | link :: words => Parts.read { p with link := some link } words
    else
      match attribute? (String.ofList small) with
      | some name => (p.set name true).read words
      | none => do
        if ← isColor small then Parts.read { p with color := some small } words else return none

/-- The words that name the parts, in order. -/
def Parts.words (p : Parts) : List (List Char) :=
  (attributeNames.filterMap fun (name, _) =>
    (p.attributes.find? fun a => a.1 == name).map fun (_, value) =>
      (if value then name else "not " ++ name).toList) ++
    p.color.toList ++ (p.background.map fun c => "on ".toList ++ c).toList ++
    (p.link.map fun l => "link ".toList ++ l).toList

/-- The words of a text. -/
def wordsOf (s : List Char) : List (List Char) :=
  (Text.splitAt ' ' (s.map fun c => if Text.isBlank c then ' ' else c)).filter (!·.isEmpty)

/-- The name that all names of a style share. -/
def name (s : List Char) : Except Fault (List Char) := do
  match ← Parts.read {} (wordsOf s) with
  | none => return Text.lowerCase (Text.trim s)
  | some p => return if p.words.isEmpty then "none".toList else Text.joinWith [' '] p.words

end MetricFrames.Style
