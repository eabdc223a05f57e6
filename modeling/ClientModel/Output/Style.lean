/-
This file reads the names of styles. A name is a row of words: what a text is, or is not, its
color, the color behind it, where it leads to. Names for the same style have one plain form, and a
name that is none of a style is compared as it is written, in small letters.
-/

import ClientModel.Text.Blank
import ClientModel.Text.Digit
import ClientModel.Text.Hex
import ClientModel.Text.LowerCase
import ClientModel.Text.Split

namespace ClientModel

/-! ### Colors -/

namespace StyleColor

/-- The names of colors. -/
def names : List String := [
  "default", "black", "red", "green", "yellow", "blue", "magenta", "cyan", "white", "bright_black",
  "bright_red", "bright_green", "bright_yellow", "bright_blue", "bright_magenta", "bright_cyan",
  "bright_white", "grey0", "gray0", "navy_blue", "dark_blue", "blue3", "blue1", "dark_green",
  "deep_sky_blue4", "dodger_blue3", "dodger_blue2", "green4", "spring_green4", "turquoise4",
  "deep_sky_blue3", "dodger_blue1", "green3", "spring_green3", "dark_cyan", "light_sea_green",
  "deep_sky_blue2", "deep_sky_blue1", "spring_green2", "cyan3", "dark_turquoise", "turquoise2",
  "green1", "spring_green1", "medium_spring_green", "cyan2", "cyan1", "dark_red", "deep_pink4",
  "purple4", "purple3", "blue_violet", "orange4", "grey37", "gray37", "medium_purple4",
  "slate_blue3", "royal_blue1", "chartreuse4", "dark_sea_green4", "pale_turquoise4", "steel_blue",
  "steel_blue3", "cornflower_blue", "chartreuse3", "cadet_blue", "sky_blue3", "steel_blue1",
  "pale_green3", "sea_green3", "aquamarine3", "medium_turquoise", "chartreuse2", "sea_green2",
  "sea_green1", "aquamarine1", "dark_slate_gray2", "dark_magenta", "dark_violet", "purple",
  "light_pink4", "plum4", "medium_purple3", "slate_blue1", "yellow4", "wheat4", "grey53", "gray53",
  "light_slate_grey", "light_slate_gray", "medium_purple", "light_slate_blue", "dark_olive_green3",
  "dark_sea_green", "light_sky_blue3", "sky_blue2", "dark_sea_green3", "dark_slate_gray3",
  "sky_blue1", "chartreuse1", "light_green", "pale_green1", "dark_slate_gray1", "red3",
  "medium_violet_red", "magenta3", "dark_orange3", "indian_red", "hot_pink3", "medium_orchid3",
  "medium_orchid", "medium_purple2", "dark_goldenrod", "light_salmon3", "rosy_brown", "grey63",
  "gray63", "medium_purple1", "gold3", "dark_khaki", "navajo_white3", "grey69", "gray69",
  "light_steel_blue3", "light_steel_blue", "yellow3", "dark_sea_green2", "light_cyan3",
  "light_sky_blue1", "green_yellow", "dark_olive_green2", "dark_sea_green1", "pale_turquoise1",
  "deep_pink3", "magenta2", "hot_pink2", "orchid", "medium_orchid1", "orange3", "light_pink3",
  "pink3", "plum3", "violet", "light_goldenrod3", "tan", "misty_rose3", "thistle3", "plum2",
  "khaki3", "light_goldenrod2", "light_yellow3", "grey84", "gray84", "light_steel_blue1",
  "yellow2", "dark_olive_green1", "honeydew2", "light_cyan1", "red1", "deep_pink2", "deep_pink1",
  "magenta1", "orange_red1", "indian_red1", "hot_pink", "dark_orange", "salmon1", "light_coral",
  "pale_violet_red1", "orchid2", "orchid1", "orange1", "sandy_brown", "light_salmon1",
  "light_pink1", "pink1", "plum1", "gold1", "navajo_white1", "misty_rose1", "thistle1", "yellow1",
  "light_goldenrod1", "khaki1", "wheat1", "cornsilk1", "grey100", "gray100", "grey3", "gray3",
  "grey7", "gray7", "grey11", "gray11", "grey15", "gray15", "grey19", "gray19", "grey23", "gray23",
  "grey27", "gray27", "grey30", "gray30", "grey35", "gray35", "grey39", "gray39", "grey42",
  "gray42", "grey46", "gray46", "grey50", "gray50", "grey54", "gray54", "grey58", "gray58",
  "grey62", "gray62", "grey66", "gray66", "grey70", "gray70", "grey74", "gray74", "grey78",
  "gray78", "grey82", "gray82", "grey85", "gray85", "grey89", "gray89", "grey93", "gray93"]

/-- What can be wrong with the name of a color. -/
inductive Fault where
  /-- It names none. -/
  | unknown
  /-- A part that has to be a number is missing. -/
  | noNumber
  deriving DecidableEq, Repr

/-- The inside of a name of this kind: what is between the parentheses. -/
def inside? (kind : String) (name : List Char) : Option (List Char) :=
  let start := kind.toList ++ ['(']
  if start.isPrefixOf name && name.getLast? == some ')' then
    some (name.drop start.length).dropLast
  else none

/-- The number that decimal digits of any script write. -/
def number (digits : List Char) : Nat :=
  digits.foldl (fun sum digit => sum * 10 + (Text.decimalValue? digit).getD 0) 0

/-- Whether a color is named by its number in the palette. -/
def isNumbered (name : List Char) : Bool :=
  match inside? "color" name with
  | some digits =>
    1 ≤ digits.length && digits.length ≤ 3 && digits.all Text.isAsciiDigit && number digits ≤ 255
  | none => false

/-- Whether a color is named by six digits in base sixteen. -/
def isCoded (name : List Char) : Bool :=
  match name with
  | '#' :: digits => digits.length == 6 && digits.all fun digit => (Text.hexValue? digit).isSome
  | _ => false

/-- Reads a name of three parts, separated by commas; all have to be numbers. -/
def readParts (content : List Char) : Except Fault Unit :=
  let parts := Text.splitOn ',' content
  if content.isEmpty || !parts.all (·.all fun digit => (Text.decimalValue? digit).isSome) then
    .error .unknown
  else if parts.length != 3 then .error .unknown
  else if parts.any List.isEmpty then .error .noNumber
  else if parts.all fun part => number part ≤ 255 then .ok ()
  else .error .unknown

/-- Reads the name of a color: the name as it is compared. -/
def read (name : List Char) : Except Fault (List Char) :=
  let lower := Text.lowerCase name
  if names.any (·.toList == lower) || isCoded lower || isNumbered lower then .ok lower
  else match inside? "rgb" lower with
    | some content => (readParts content).map fun _ => lower
    | none => .error .unknown

end StyleColor

/-! ### Styles -/

/-- What a text can be. -/
inductive StyleTrait where
  | bold
  | dim
  | italic
  | underline
  | blink
  | blinkFast
  | reverse
  | conceal
  | strike
  | underlineTwice
  | frame
  | encircle
  | overline
  deriving DecidableEq, Repr

namespace StyleTrait

/-- All of it, in the order of plain names. -/
def all : List StyleTrait := [
  .bold, .dim, .italic, .underline, .blink, .blinkFast, .reverse, .conceal, .strike,
  .underlineTwice, .frame, .encircle, .overline]

/-- The names, the plain one first. -/
def names : StyleTrait → List String
  | .bold => ["bold", "b"]
  | .dim => ["dim", "d"]
  | .italic => ["italic", "i"]
  | .underline => ["underline", "u"]
  | .blink => ["blink"]
  | .blinkFast => ["blink2"]
  | .reverse => ["reverse", "r"]
  | .conceal => ["conceal", "c"]
  | .strike => ["strike", "s"]
  | .underlineTwice => ["underline2", "uu"]
  | .frame => ["frame"]
  | .encircle => ["encircle"]
  | .overline => ["overline", "o"]

/-- The plain name. -/
def name (own : StyleTrait) : String := own.names.headD ""

/-- What a name says that a text is. -/
def ofName? (name : List Char) : Option StyleTrait :=
  all.find? fun own => own.names.any (·.toList == name)

end StyleTrait

/-- A style: what it says that a text is or is not, and the colors. -/
structure Style where
  traits : StyleTrait → Option Bool := fun _ => none
  color : Option (List Char) := none
  background : Option (List Char) := none
  link : Option (List Char) := none

namespace Style

/-- A style that says of a text that it is something, or that it is not. -/
def withTrait (own : StyleTrait) (holds : Bool) (style : Style) : Style :=
  { style with traits := fun other => if other = own then some holds else style.traits other }

/-- Adds the words of a name to a style. -/
def withWords : (style : Style) → List (List Char) → Except StyleColor.Fault Style
  | style, [] => .ok style
  | style, word :: rest =>
    let lower := Text.lowerCase word
    if lower == "on".toList then
      match rest with
      | [] => .error .unknown
      | color :: rest => do
        let color ← StyleColor.read color
        withWords { style with background := some color } rest
    else if lower == "not".toList then
      match rest with
      | [] => .error .unknown
      | name :: rest =>
        match StyleTrait.ofName? name with
        | some own => withWords (style.withTrait own false) rest
        | none => .error .unknown
    else if lower == "link".toList then
      match rest with
      | [] => .error .unknown
      | target :: rest => withWords { style with link := some target } rest
    else
      match StyleTrait.ofName? lower with
      | some own => withWords (style.withTrait own true) rest
      | none => do
        let color ← StyleColor.read lower
        withWords { style with color := some color } rest

/-- The words of a name. -/
def words (name : List Char) : List (List Char) :=
  (Text.splitOn ' ' (name.map fun character =>
    if Text.isBlank character then ' ' else character)).filter (!·.isEmpty)

/-- The words for what a style says of a trait. -/
def traitWords (style : Style) (own : StyleTrait) : List (List Char) :=
  match style.traits own with
  | some true => [own.name.toList]
  | some false => ["not".toList, own.name.toList]
  | none => []

/-- The plain name of a style. -/
def name (style : Style) : List Char :=
  let parts := StyleTrait.all.flatMap style.traitWords ++ style.color.toList ++
    (style.background.map fun color => ["on".toList, color]).getD [] ++
    (style.link.map fun target => ["link".toList, target]).getD []
  if parts.isEmpty then "none".toList else Text.joinWith ' ' parts

/-- The plain form of a name: names of the same style have the same, and what is no name of a style
stays as it is, in small letters. -/
def plainName (name : List Char) : Except StyleColor.Fault (List Char) :=
  let words := words name
  if words == ["none".toList] then .ok "none".toList
  else match withWords {} words with
    | .ok style => .ok style.name
    | .error .unknown => .ok (Text.lowerCase (Text.trim name))
    | .error .noNumber => .error .noNumber

end Style

end ClientModel
