import ObjectIntake.Failure
import ObjectIntake.Text.Digit
import ObjectIntake.Text.Lowercase

/-! Styles of texts, and the one name that all descriptions of a style share. -/
namespace ObjectIntake.Console
open Text

/-- The names of colors. -/
def colorNames : List String :=
  ["default", "black", "red", "green", "yellow", "blue", "magenta", "cyan", "white", "bright_black",
    "bright_red", "bright_green", "bright_yellow", "bright_blue", "bright_magenta", "bright_cyan",
    "bright_white", "grey0", "gray0", "navy_blue", "dark_blue", "blue3", "blue1", "dark_green",
    "deep_sky_blue4", "dodger_blue3", "dodger_blue2", "green4", "spring_green4", "turquoise4",
    "deep_sky_blue3", "dodger_blue1", "green3", "spring_green3", "dark_cyan", "light_sea_green",
    "deep_sky_blue2", "deep_sky_blue1", "spring_green2", "cyan3", "dark_turquoise", "turquoise2",
    "green1", "spring_green1", "medium_spring_green", "cyan2", "cyan1", "dark_red", "deep_pink4",
    "purple4", "purple3", "blue_violet", "orange4", "grey37", "gray37", "medium_purple4",
    "slate_blue3", "royal_blue1", "chartreuse4", "dark_sea_green4", "pale_turquoise4", "steel_blue",
    "steel_blue3", "cornflower_blue", "chartreuse3", "cadet_blue", "sky_blue3", "steel_blue1",
    "pale_green3", "sea_green3", "aquamarine3", "medium_turquoise", "chartreuse2", "sea_green2",
    "sea_green1", "aquamarine1", "dark_slate_gray2", "dark_magenta", "dark_violet", "purple",
    "light_pink4", "plum4", "medium_purple3", "slate_blue1", "yellow4", "wheat4", "grey53",
    "gray53", "light_slate_grey", "light_slate_gray", "medium_purple", "light_slate_blue",
    "dark_olive_green3", "dark_sea_green", "light_sky_blue3", "sky_blue2", "dark_sea_green3",
    "dark_slate_gray3", "sky_blue1", "chartreuse1", "light_green", "pale_green1",
    "dark_slate_gray1", "red3", "medium_violet_red", "magenta3", "dark_orange3", "indian_red",
    "hot_pink3", "medium_orchid3", "medium_orchid", "medium_purple2", "dark_goldenrod",
    "light_salmon3", "rosy_brown", "grey63", "gray63", "medium_purple1", "gold3", "dark_khaki",
    "navajo_white3", "grey69", "gray69", "light_steel_blue3", "light_steel_blue", "yellow3",
    "dark_sea_green2", "light_cyan3", "light_sky_blue1", "green_yellow", "dark_olive_green2",
    "dark_sea_green1", "pale_turquoise1", "deep_pink3", "magenta2", "hot_pink2", "orchid",
    "medium_orchid1", "orange3", "light_pink3", "pink3", "plum3", "violet", "light_goldenrod3",
    "tan", "misty_rose3", "thistle3", "plum2", "khaki3", "light_goldenrod2", "light_yellow3",
    "grey84", "gray84", "light_steel_blue1", "yellow2", "dark_olive_green1", "honeydew2",
    "light_cyan1", "red1", "deep_pink2", "deep_pink1", "magenta1", "orange_red1", "indian_red1",
    "hot_pink", "dark_orange", "salmon1", "light_coral", "pale_violet_red1", "orchid2", "orchid1",
    "orange1", "sandy_brown", "light_salmon1", "light_pink1", "pink1", "plum1", "gold1",
    "navajo_white1", "misty_rose1", "thistle1", "yellow1", "light_goldenrod1", "khaki1", "wheat1",
    "cornsilk1", "grey100", "gray100", "grey3", "gray3", "grey7", "gray7", "grey11", "gray11",
    "grey15", "gray15", "grey19", "gray19", "grey23", "gray23", "grey27", "gray27", "grey30",
    "gray30", "grey35", "gray35", "grey39", "gray39", "grey42", "gray42", "grey46", "gray46",
    "grey50", "gray50", "grey54", "gray54", "grey58", "gray58", "grey62", "gray62", "grey66",
    "gray66", "grey70", "gray70", "grey74", "gray74", "grey78", "gray78", "grey82", "gray82",
    "grey85", "gray85", "grey89", "gray89", "grey93", "gray93"]

namespace Style

/-- The words of a text, between blanks. -/
def wordsOf (s : List Char) : List (List Char) :=
  (pieces ' ' (s.map fun c => if isBlank c then ' ' else c)).filter (· ≠ [])

/-- The attributes of a style, in the order in which they are told. -/
def attributeOrder : List String :=
  ["bold", "dim", "italic", "underline", "blink", "blink2", "reverse", "conceal", "strike", "underline2",
    "frame", "encircle", "overline"]

/-- The attribute that a word names, in full or in short. -/
def attribute? (word : String) : Option String :=
  match word with
  | "b" => some "bold"
  | "d" => some "dim"
  | "i" => some "italic"
  | "u" => some "underline"
  | "uu" => some "underline2"
  | "r" => some "reverse"
  | "c" => some "conceal"
  | "s" => some "strike"
  | "o" => some "overline"
  | word => if attributeOrder.contains word then some word else none

/-- The text between a start and an end. -/
def between? (start ending : String) (s : List Char) : Option (List Char) :=
  if start.toList.isPrefixOf s && ending.toList.isSuffixOf s && start.length + ending.length ≤ s.length then
    some ((s.drop start.length).take (s.length - start.length - ending.length))
  else none

def valueOf (digits : List Nat) : Nat := digits.foldl (fun n d => 10 * n + d) 0

/-- Whether a word tells a color by three parts. A part without digits is no number. -/
def isMixture (parts : List (List Char)) : Except Failure Bool :=
  match parts.mapM fun part => part.mapM digitValue? with
  | none => .ok false
  | some values =>
      if values.length ≠ 3 then .ok false
      else if values.contains [] then .error (.notAnInteger "")
      else .ok (values.all fun digits => valueOf digits ≤ 255)

/-- Whether a word in lower case names a color or tells it by its number or its parts. -/
def isColor (word : String) : Except Failure Bool :=
  let s := word.toList
  if colorNames.contains word then .ok true
  else match s with
    | '#' :: digits => .ok (digits.length = 6 && digits.all fun c => (hexDigit? c).isSome)
    | s =>
        match between? "color(" ")" s, between? "rgb(" ")" s with
        | some number, _ =>
            match number.mapM asciiDigit? with
            | some digits => .ok (!digits.isEmpty && digits.length ≤ 3 && valueOf digits ≤ 255)
            | none => .ok false
        | none, some parts => isMixture (pieces ',' parts)
        | none, none => .ok false

end Style

structure Style where
  /-- The attributes that are set, or set not to be. The first entry for one counts. -/
  attributes : List (String × Bool) := []
  color : Option String := none
  background : Option String := none
  link : Option String := none

namespace Style

/-- The style that words describe, if they describe one. -/
def describe? (done : Style) : List (List Char) → Except Failure (Option Style)
  | [] => .ok (some done)
  | original :: rest => do
      let word := lowercase (String.ofList original)
      match word, rest with
      | "on", [] => return none
      | "on", color :: rest =>
          let color := lowercase (String.ofList color)
          if ← isColor color then describe? { done with background := some color } rest else return none
      | "not", [] => return none
      | "not", named :: rest =>
          match attribute? (String.ofList named) with
          | some a => describe? { done with attributes := (a, false) :: done.attributes } rest
          | none => return none
      | "link", [] => return none
      | "link", target :: rest => describe? { done with link := some (String.ofList target) } rest
      | word, rest =>
          match attribute? word with
          | some a => describe? { done with attributes := (a, true) :: done.attributes } rest
          | none => if ← isColor word then describe? { done with color := some word } rest else return none

def attributeNames (s : Style) : List String :=
  attributeOrder.filterMap fun a =>
    (s.attributes.lookup a).map fun on => if on then a else "not " ++ a

/-- The name of a style: its attributes, its color, the one behind the text, and its link. -/
def name (s : Style) : String :=
  let parts := s.attributeNames ++ s.color.toList ++ (s.background.map ("on " ++ ·)).toList ++
    (s.link.map ("link " ++ ·)).toList
  if parts.isEmpty then "none" else join " " parts

/-- The name of the style that a text describes. A text that describes none is its own name, in lower case. -/
def nameOf (s : List Char) : Except Failure String := do
  if trim isBlank s = "none".toList then return "none"
  match ← describe? {} (wordsOf s) with
  | some style => return style.name
  | none => return lowercase (String.ofList (trim isBlank s))

end Style
end ObjectIntake.Console
