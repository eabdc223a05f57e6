/-
This file says which scalar a text stands for under a tag, and what can keep it from standing for
one. Numbers may be written in base two, eight, sixteen or sixty, with underscores in them; words
stand for truth values in any case; a time is a point of the calendar.
-/

import ClientModel.Binary64.Decimal
import ClientModel.Text.Base64
import ClientModel.Text.LowerCase
import ClientModel.Value.Basic
import ClientModel.Yaml.Tag
import ClientModel.Yaml.Token

namespace ClientModel.Yaml

/-! ### Integers -/

/-- The digits of a numeral without the letter that may name its base. -/
def withoutBaseLetter (base : Nat) : List Char → List Char
  | '0' :: letter :: rest =>
    let letters := match base with
      | 2 => ['b', 'B']
      | 8 => ['o', 'O']
      | 16 => ['x', 'X']
      | _ => []
    if letters.contains letter then rest else '0' :: letter :: rest
  | rest => rest

/-- The value of digits in a base. -/
def naturalInBase? (base : Nat) (digits : List Char) : Option Nat :=
  if digits.isEmpty then none
  else digits.foldlM (fun value digit =>
    match Text.hexValue? digit with
    | some found => if found < base then some (value * base + found) else none
    | none => none) 0

/-- The integer that a text writes in a base. -/
def integerInBase (base : Nat) (text : List Char) : Except ScalarFault Int :=
  let misfit : Except ScalarFault Int := .error (.integer (String.ofList text) base)
  match Text.numeralParts? text with
  | none => misfit
  | some (negative, rest) =>
    let digits := withoutBaseLetter base rest
    match naturalInBase? base digits with
    | none => misfit
    | some magnitude =>
      if base == 10 && Text.longestInteger < digits.length then .error (.longInteger digits.length)
      else .ok (if negative then -(magnitude : Int) else magnitude)

/-- The integer of parts in base sixty, the last part first. -/
def sexagesimalInteger (parts : List Int) : Int :=
  parts.foldr (fun part sum => part + 60 * sum) 0

/-- The integer that a text without sign and underscores writes. The digits in front tell the
base. -/
def integerOfText (text : List Char) : Except ScalarFault Int :=
  match text with
  | ['0'] => .ok 0
  | '0' :: 'b' :: digits => integerInBase 2 digits
  | '0' :: 'x' :: digits => integerInBase 16 digits
  | '0' :: _ => integerInBase 8 text
  | [] => .error .emptyNumeral
  | _ =>
    if text.contains ':' then do
      let parts ← (colonParts text).mapM (integerInBase 10)
      pure (sexagesimalInteger parts.reverse)
    else integerInBase 10 text

/-- The sign in front of a number and the rest, without underscores; nothing for an empty text. -/
def signedParts (text : List Char) : Except ScalarFault (Bool × List Char) :=
  match text.filter (· != '_') with
  | [] => .error .emptyNumeral
  | found => .ok (Text.splitSign found)

/-- The integer that a scalar writes. -/
def integerOf (content : String) : Except ScalarFault Int := do
  let (negative, rest) ← signedParts content.toList
  let magnitude ← integerOfText rest
  pure (if negative then -magnitude else magnitude)

/-! ### Numbers -/

/-- The number that a text writes. -/
def decimalOf (text : List Char) : Except ScalarFault Binary64 :=
  let content := String.ofList text
  match Binary64.read? content with
  | some number => .ok number
  | none => .error (.number content)

/-- The sum of parts in base sixty, the last part first, rounded after every step. -/
def sexagesimalSum : (sum : Binary64) → (base : Int) → List Binary64 → Binary64
  | sum, _, [] => sum
  | sum, base, part :: rest =>
    sexagesimalSum (sum.add (part.multiply (Binary64.ofInt base))) (base * 60) rest

/-- The number that a text without sign and underscores writes. -/
def numberOfText (text : List Char) : Except ScalarFault Binary64 :=
  if text == ".inf".toList then .ok (.infinite false)
  else if text == ".nan".toList then .ok .notANumber
  else if text.contains ':' then do
    let parts ← (colonParts text).mapM decimalOf
    pure (sexagesimalSum (Binary64.ofInt 0) 1 parts.reverse)
  else decimalOf text

/-- The number that a scalar writes. -/
def numberOf (content : String) : Except ScalarFault Binary64 := do
  let (negative, rest) ← signedParts (Text.lowerCase content.toList)
  let magnitude ← numberOfText rest
  pure (if negative then magnitude.negate else magnitude)

/-! ### Other scalars -/

/-- The truth value that a word writes, in any case. -/
def truthOf (content : String) : Except ScalarFault Bool :=
  let lower := String.ofList (Text.lowerCase content.toList)
  if ["yes", "true", "on"].contains lower then .ok true
  else if ["no", "false", "off"].contains lower then .ok false
  else .error (.truth lower)

/-- The date or time that a scalar writes. -/
def timeOf (content : String) : Except ScalarFault Scalar :=
  match TimeParts.ofText? (withoutFinalBreak content.toList) with
  | none => .error .time
  | some parts =>
    match parts.clock with
    | none =>
      ((Date.ofFields parts.year parts.month parts.day).map Scalar.date).mapError .calendar
    | some (hour, minute, second, microsecond) =>
      ((Timestamp.ofFields parts.year parts.month parts.day hour minute second microsecond
        parts.offsetMinutes).map Scalar.timestamp).mapError .calendar

/-- The bytes that a scalar writes. -/
def binaryOf (content : String) : Except Error Scalar :=
  let text := content.toList
  if text.all fun character => character.toNat < 128 then
    match Text.readBase64? [] 0 text with
    | some bytes => .ok (.binary bytes)
    | none => .error (.malformed .binary)
  else .error (.malformed .binary)

/-- The scalar of a text under a tag. -/
def scalarOf (tag : Tag) (content : String) : Except Error Scalar :=
  match tag with
  | .null => .ok .null
  | .truth => ((truthOf content).map Scalar.bool).mapError .unfit
  | .integer => ((integerOf content).map Scalar.int).mapError .unfit
  | .number => ((numberOf content).map Scalar.float).mapError .unfit
  | .text => .ok (.string content)
  | .time => (timeOf content).mapError .unfit
  | .binary => binaryOf content
  | .orderedEntries | .pairs | .set | .list | .map => .error (.malformed .unfitTag)
  | .merge | .selfValue | .unknown _ => .error (.malformed .unknownTag)

end ClientModel.Yaml
