/-
This file says what the tag of a node asks for, and which tag a plain scalar has that carries
none: the one whose form its text has. A number may be written in base two, eight or sixteen, with
underscores in it, or in base sixty with colons; a few words are truth values; a date stands for
itself.
-/

import ClientModel.Calendar
import ClientModel.Text.Hex
import ClientModel.Text.Numeral

namespace ClientModel.Yaml

/-! ### Tags -/

/-- What a node is asked to be. -/
inductive Tag where
  | null
  | truth
  | integer
  | number
  | text
  | binary
  | time
  | orderedEntries
  | pairs
  | set
  | list
  | map
  | merge
  | selfValue
  | unknown (name : String)
  deriving DecidableEq, Repr

/-- What the names of the common tags start with. -/
def commonHandle : String := "tag:yaml.org,2002:"

/-- The common tags by their names. -/
def commonTags : List (String × Tag) := [
  ("null", .null),
  ("bool", .truth),
  ("int", .integer),
  ("float", .number),
  ("str", .text),
  ("binary", .binary),
  ("timestamp", .time),
  ("omap", .orderedEntries),
  ("pairs", .pairs),
  ("set", .set),
  ("seq", .list),
  ("map", .map),
  ("merge", .merge),
  ("value", .selfValue)]

/-- The tag of a full name. -/
def Tag.ofName (name : String) : Tag :=
  ((commonTags.find? fun entry => commonHandle ++ entry.1 == name).map Prod.snd).getD
    (.unknown name)

/-! ### Forms of plain scalars -/

/-- The words for null. -/
def nullWords : List String := ["", "~", "null", "Null", "NULL"]

/-- The words for the truth values. -/
def truthWords : List String :=
  ["yes", "Yes", "YES", "no", "No", "NO", "true", "True", "TRUE", "false", "False", "FALSE", "on",
    "On", "ON", "off", "Off", "OFF"]

/-- A text without a sign in front. -/
def withoutSign (text : List Char) : List Char := (Text.splitSign text).2

/-- A digit or an underscore. -/
def isSpacedDigit (character : Char) : Bool := Text.isAsciiDigit character || character == '_'

/-- A text of at least one character, all of a class. -/
def isRunOf (belongs : Char → Bool) (text : List Char) : Bool := !text.isEmpty && text.all belongs

/-- A digit followed by digits and underscores. -/
def isSpacedNumeral : List Char → Bool
  | first :: rest => Text.isAsciiDigit first && rest.all isSpacedDigit
  | [] => false

/-- A part of a number in base sixty: one digit, or two below sixty. -/
def isSexagesimal : List Char → Bool
  | [digit] => Text.isAsciiDigit digit
  | [tens, ones] => '0' ≤ tens && tens ≤ '5' && Text.isAsciiDigit ones
  | _ => false

/-- The parts of a text between colons. -/
def colonParts (text : List Char) : List (List Char) :=
  text.foldr (fun character parts =>
    match character == ':', parts with
    | true, parts => [] :: parts
    | false, part :: parts => (character :: part) :: parts
    | false, [] => [[character]]) [[]]

/-- Whether a text without a sign has the form of an integer. -/
def isUnsignedInteger (text : List Char) : Bool :=
  match text with
  | ['0'] => true
  | '0' :: 'b' :: digits =>
    isRunOf (fun digit => digit == '0' || digit == '1' || digit == '_') digits
  | '0' :: 'x' :: digits =>
    isRunOf (fun digit => (Text.hexValue? digit).isSome || digit == '_') digits
  | '0' :: digits => isRunOf (fun digit => ('0' ≤ digit && digit ≤ '7') || digit == '_') digits
  | _ =>
    match colonParts text with
    | whole :: parts => isSpacedNumeral whole && parts.all isSexagesimal
    | [] => false

/-- The exponent of a number, which needs a sign: nothing, or `e`, a sign and digits. -/
def isExponent : List Char → Bool
  | [] => true
  | mark :: sign :: digits =>
    (mark == 'e' || mark == 'E') && (sign == '+' || sign == '-') &&
      isRunOf Text.isAsciiDigit digits
  | _ => false

/-- Whether a text without a sign has the form of a number with a point behind a digit. -/
def isPointed (text : List Char) : Bool :=
  let whole := text.takeWhile (· != '.')
  match text.dropWhile (· != '.') with
  | [] => false
  | _ :: rest =>
    match colonParts whole with
    | [_] => isSpacedNumeral whole && isExponent (rest.dropWhile isSpacedDigit)
    | first :: parts =>
      isSpacedNumeral first && parts.all isSexagesimal && rest.all isSpacedDigit
    | [] => false

/-- Whether a text has the form of a number that is no integer. -/
def isNumber (text : List Char) : Bool :=
  isPointed (withoutSign text) ||
    [".inf", ".Inf", ".INF"].contains (String.ofList (withoutSign text)) ||
    [".nan", ".NaN", ".NAN"].contains (String.ofList text) ||
    match text with
    | '.' :: first :: rest =>
      Text.isAsciiDigit first && isExponent (rest.dropWhile isSpacedDigit)
    | _ => false

/-! ### Times -/

/-- The parts of a time as it is written. -/
structure TimeParts where
  year : Nat
  month : Nat
  day : Nat
  /-- The hour, minute, second and microsecond, where there is more than a date. -/
  clock : Option (Nat × Nat × Nat × Nat)
  offsetMinutes : Option Int
  deriving DecidableEq, Repr

/-- A number of exactly so many digits, and what follows it. -/
def fixedNumber? (width : Nat) (text : List Char) : Option (Nat × List Char) :=
  let digits := text.take width
  if digits.length == width && digits.all Text.isAsciiDigit then
    some (Text.naturalOf digits, text.drop width)
  else none

/-- A number of one or two digits, and what follows it. -/
def shortNumber? (text : List Char) : Option (Nat × List Char) :=
  (fixedNumber? 2 text).or (fixedNumber? 1 text)

/-- What follows a character. -/
def after? (expected : Char) : List Char → Option (List Char)
  | character :: rest => if character == expected then some rest else none
  | [] => none

/-- A space or a tab. -/
def isInnerBlank (character : Char) : Bool := character == ' ' || character == '\t'

/-- The microseconds that the digits after a point write; further digits are cut off. -/
def microsecondsOf (digits : List Char) : Nat :=
  let kept := digits.take 6
  Text.naturalOf (kept ++ List.replicate (6 - kept.length) '0')

/-- The fraction of a second, and what follows it. -/
def fractionOf : List Char → Nat × List Char
  | '.' :: rest =>
    (microsecondsOf (rest.takeWhile Text.isAsciiDigit), rest.dropWhile Text.isAsciiDigit)
  | rest => (0, rest)

/-- The minutes of an offset behind its hours. -/
def offsetRest? : List Char → Option Nat
  | [] => some 0
  | ':' :: rest => (fixedNumber? 2 rest).bind fun found =>
      if found.2.isEmpty then some found.1 else none
  | _ => none

/-- The offset at the end of a time: none, `Z` for universal time, or a sign and hours. -/
def offset? (text : List Char) : Option (Option Int) :=
  if text.isEmpty then some none
  else
    match text.dropWhile isInnerBlank with
    | ['Z'] => some (some 0)
    | sign :: rest =>
      if sign == '+' || sign == '-' then do
        let (hours, rest) ← shortNumber? rest
        let minutes ← offsetRest? rest
        let magnitude : Int := (hours * 60 + minutes : Nat)
        pure (some (if sign == '-' then -magnitude else magnitude))
      else none
    | [] => none

/-- What follows the mark between a date and a clock: a letter, or blanks. -/
def afterDate? : List Char → Option (List Char)
  | mark :: rest =>
    if mark == 'T' || mark == 't' then some rest
    else if isInnerBlank mark then some (rest.dropWhile isInnerBlank)
    else none
  | [] => none

/-- The parts of a text that has the form of a date or of a time. -/
def TimeParts.ofText? (text : List Char) : Option TimeParts := do
  let (year, rest) ← fixedNumber? 4 text
  let (month, rest) ← shortNumber? (← after? '-' rest)
  let (day, rest) ← shortNumber? (← after? '-' rest)
  if rest.isEmpty then pure ⟨year, month, day, none, none⟩
  else
    let (hour, rest) ← shortNumber? (← afterDate? rest)
    let (minute, rest) ← fixedNumber? 2 (← after? ':' rest)
    let (second, rest) ← fixedNumber? 2 (← after? ':' rest)
    let (microsecond, rest) := fractionOf rest
    let offset ← offset? rest
    pure ⟨year, month, day, some (hour, minute, second, microsecond), offset⟩

/-- Whether a plain scalar has the form of a time. A date alone is written in full. -/
def isTime (text : List Char) : Bool :=
  (TimeParts.ofText? text).any fun parts => parts.clock.isSome || text.length == 10

/-! ### Tags of plain scalars -/

/-- The marks that stand for no value. -/
def valuelessMarks : List String := ["!", "&", "*"]

/-- The tag of the form that a text has. -/
def Tag.ofForm (text : List Char) : Tag :=
  let content := String.ofList text
  if nullWords.contains content then .null
  else if truthWords.contains content then .truth
  else if isUnsignedInteger (withoutSign text) then .integer
  else if isNumber text then .number
  else if isTime text then .time
  else if content == "<<" then .merge
  else if content == "=" then .selfValue
  else if valuelessMarks.contains content then .unknown (commonHandle ++ "yaml")
  else .text

/-- A text without the line feed at its end, if one is there. -/
def withoutFinalBreak (text : List Char) : List Char :=
  if text.getLast? == some '\n' then text.dropLast else text

/-- The tag of a scalar that is to be what it looks like. A line feed at the end of its text does
not count, unless it is all of the text. -/
def Tag.ofPlain (content : String) : Tag :=
  if content == "\n" then .text else .ofForm (withoutFinalBreak content.toList)

end ClientModel.Yaml
