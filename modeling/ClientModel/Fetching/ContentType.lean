/-
This file reads the parameters of a content type and finds the character set that they name. A
value may stand in quotes; it may be cut into numbered parts, and a part may be written in percent
signs, in which case the value tells its own character set and language in front.
-/

import ClientModel.Text.Blank
import ClientModel.Text.Charset
import ClientModel.Text.Split

namespace ClientModel.ContentType

/-! ### Parameters -/

/-- Puts a character in front of the first of some parts. -/
def prepend (character : Char) : List (List Char) → List (List Char)
  | [] => [[character]]
  | part :: parts => (character :: part) :: parts

/-- The parts of a content type between semicolons. A semicolon between quotes is none, and a
quote after a backslash is no quote. -/
def parts : (quoted escaped : Bool) → List Char → List (List Char)
  | _, _, [] => [[]]
  | quoted, escaped, character :: rest =>
    if character == ';' && !quoted then [] :: parts false false rest
    else
      let turned := character == '"' && !escaped
      prepend character (parts (quoted != turned) (character == '\\') rest)

/-- A name with its value. -/
structure Parameter where
  name : List Char
  value : List Char
  deriving DecidableEq, Repr

/-- The parameter that a part writes; without an equals sign it has no value, and its name stays
as it is written. -/
def Parameter.ofPart (part : List Char) : Parameter :=
  let name := Text.trim (part.takeWhile (· != '='))
  match part.dropWhile (· != '=') with
  | [] => ⟨name, []⟩
  | _ :: value => ⟨name.map Char.toLower, Text.trim value⟩

/-- A text without the backslashes that stand before a backslash. -/
def withoutDoubles : List Char → List Char
  | '\\' :: '\\' :: rest => '\\' :: withoutDoubles rest
  | character :: rest => character :: withoutDoubles rest
  | [] => []

/-- A text without the backslashes that stand before a quote. -/
def withoutQuoting : List Char → List Char
  | '\\' :: '"' :: rest => '"' :: withoutQuoting rest
  | character :: rest => character :: withoutQuoting rest
  | [] => []

/-- A value without the quotes or the angles around it. -/
def unquoted (value : List Char) : List Char :=
  match value, value.getLast? with
  | '"' :: next :: rest, some '"' => withoutQuoting (withoutDoubles (next :: rest).dropLast)
  | '<' :: next :: rest, some '>' => (next :: rest).dropLast
  | _, _ => value

/-! ### Values in parts -/

/-- A part of a value. -/
structure Segment where
  /-- Where it belongs, if it is numbered. -/
  number : Option Nat
  value : List Char
  /-- Whether percent signs describe characters. -/
  isEncoded : Bool
  deriving DecidableEq, Repr

/-- The parameter that a name with an asterisk belongs to, and the number after the asterisk. -/
def segmentName? (name : List Char) : Option (List Char × Option Nat) :=
  let own := name.takeWhile (· != '*')
  let isOwn := !own.isEmpty && own.all fun character => character.isAlphanum || character == '_'
  match name.dropWhile (· != '*') with
  | _ :: digits =>
    let (number, tail) := digits.span Char.isDigit
    if !isOwn then none
    else if digits.isEmpty then some (own, none)
    else if !number.isEmpty && (tail.isEmpty || tail == ['*']) then
      some (own, some (number.foldl (fun sum digit => sum * 10 + (digit.toNat - 48)) 0))
    else none
  | [] => none

/-- Whether a segment comes before another or at the same place. -/
def Segment.le (first second : Segment) : Bool :=
  let firstNumber := first.number.getD 0
  let secondNumber := second.number.getD 0
  if firstNumber != secondNumber then firstNumber < secondNumber
  else if first.value != second.value then first.value < second.value
  else !first.isEncoded || second.isEncoded

/-- The first segment that is numbered where the first of all is not, or the other way round. -/
def numberingFault? : List Segment → Option Text.CharsetFault
  | [] => none
  | first :: rest =>
    (rest.find? fun segment => segment.number.isSome != first.number.isSome).map fun segment =>
      .numbering segment.number.isSome

/-- A text in which a percent sign and two digits are a character of that code. -/
def withoutPercents : List Char → List Char
  | '%' :: high :: low :: rest =>
    match Text.hexValue? high, Text.hexValue? low with
    | some highValue, some lowValue =>
      Char.ofNat (highValue * 16 + lowValue) :: withoutPercents rest
    | _, _ => '%' :: withoutPercents (high :: low :: rest)
  | character :: rest => character :: withoutPercents rest
  | [] => []

/-- The bytes of characters: those up to 255 are one byte each, the others are described. -/
def bytesOf (characters : List Char) : List UInt8 :=
  characters.flatMap fun character =>
    let code := character.toNat
    let description := if code < 0x100 then [character]
      else if code < 0x10000 then '\\' :: 'u' :: Text.hexDigits 4 code
      else '\\' :: 'U' :: Text.hexDigits 8 code
    description.map fun part => part.toNat.toUInt8

/-- The text of a value that tells its own character set; the value as it stands, where it is no
text in that set. -/
def described (value : List Char) : Except Text.CharsetFault (List Char) :=
  let (charset, content) :=
    match Text.splitOn '\x27' value with
    | charset :: _ :: content :: more => (charset, Text.joinWith '\x27' (content :: more))
    | _ => ([], value)
  let name := if charset.isEmpty then "ascii".toList else charset
  if name.contains '\x00' then .error .nullCharacter
  else match (Text.Charset.ofName? name).bind (·.readStrictly? (bytesOf content)) with
    | some text => .ok text.toList
    | none => .ok content

/-- The value of segments in their order. -/
def joined (segments : List Segment) : Except Text.CharsetFault (List Char) :=
  let whole := (segments.mergeSort Segment.le).flatMap fun segment =>
    if segment.isEncoded then withoutPercents segment.value else segment.value
  if segments.any Segment.isEncoded then described whole else .ok whole

/-! ### The character set -/

/-- Whether a parameter has the name that is asked for, in capitals or not. -/
def isNamed (name own : List Char) : Bool := own.map Char.toLower == name

/-- The segments that belong to one parameter. -/
def segmentsOf (own : List Char) (segments : List (List Char × Segment)) : List Segment :=
  (segments.filter fun entry => entry.1 == own).map Prod.snd

/-- The value of a parameter: the first that has it in one part, else its segments joined. -/
def value? (name : List Char) (content : String) : Except Text.CharsetFault (Option (List Char)) :=
  let parameters := (parts false false content.toList).map Parameter.ofPart
  let whole := parameters.zipIdx.filterMap fun (parameter, position) =>
    if position != 0 && (segmentName? parameter.name).isSome then none
    else if isNamed name parameter.name then some (unquoted parameter.value) else none
  let segments := parameters.tail.filterMap fun parameter =>
    (segmentName? parameter.name).map fun (own, number) =>
      (own, Segment.mk number (unquoted parameter.value) (parameter.name.getLast? == some '*'))
  match segments.findSome? fun entry => numberingFault? (segmentsOf entry.1 segments) with
  | some fault => .error fault
  | none =>
    match whole, segments.find? fun entry => isNamed name entry.1 with
    | first :: _, _ => .ok (some first)
    | [], none => .ok none
    | [], some (own, _) => (joined (segmentsOf own segments)).map some

/-- The character set that a content type names, if it is known. -/
def charset? (content : String) : Except Text.CharsetFault (Option Text.Charset) := do
  match ← value? "charset".toList content with
  | none => return none
  | some name =>
    if !name.all fun character => character.toNat < 0x80 then return none
    else if name.contains '\x00' then throw .nullCharacter
    else return Text.Charset.ofName? name

end ClientModel.ContentType
