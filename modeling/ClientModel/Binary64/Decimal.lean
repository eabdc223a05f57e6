/-
This file reads decimal numerals as doubles: the double nearest to the exact decimal, a tie going
to the even significand. A numeral whose power of ten is far outside the range of the format is
answered without building the power.
-/

import ClientModel.Binary64.Basic
import ClientModel.Text.Numeral

namespace ClientModel.Binary64

open Text

/-! ### From digits and a power of ten -/

/-- The double nearest to `digits * 10^power`. -/
def ofDecimal (negative : Bool) (digits : Nat) (count : Nat) (power : Int) : Binary64 :=
  if digits == 0 then zeroOf negative
  else if (count : Int) + power < -330 then zeroOf negative
  else if power > 400 then .infinite negative
  else ofRatio negative (digits * Nat.pow 10 power.toNat) (Nat.pow 10 (-power).toNat)

/-- The double that digits, digits after a point, and an exponent write. -/
def ofParts (negative : Bool) (whole fraction : List Char) (exponent : Int) : Binary64 :=
  let digits := whole ++ fraction
  ofDecimal negative (naturalOf digits) digits.length (exponent - fraction.length)

/-! ### Numerals -/

/-- The exponent part of a numeral: nothing, or `e`, a sign and digits to the end. -/
def readExponent? : List Char → Option Int
  | [] => some 0
  | mark :: rest =>
    if mark == 'e' || mark == 'E' then
      let (negative, digits) := splitSign rest
      if digits.isEmpty || !digits.all isAsciiDigit then none
      else
        let magnitude : Int := naturalOf digits
        some (if negative then -magnitude else magnitude)
    else none

/-- A numeral of ASCII digits with an optional point and exponent, or one of the names of what is
not finite. -/
def readUnsigned? (negative : Bool) (text : List Char) : Option Binary64 :=
  let lower := String.ofList (text.map Char.toLower)
  if lower == "inf" || lower == "infinity" then some (.infinite negative)
  else if lower == "nan" then some .notANumber
  else
    let whole := text.takeWhile isAsciiDigit
    let afterWhole := text.dropWhile isAsciiDigit
    let (fraction, afterFraction) := match afterWhole with
      | '.' :: rest => (rest.takeWhile isAsciiDigit, rest.dropWhile isAsciiDigit)
      | rest => ([], rest)
    if whole.isEmpty && fraction.isEmpty then none
    else (readExponent? afterFraction).map (ofParts negative whole fraction)

/-- A numeral of ASCII characters with a sign or without. -/
def readSigned? (text : List Char) : Option Binary64 :=
  let (negative, rest) := splitSign text
  readUnsigned? negative rest

/-- Whether no underscore stands beside another one. -/
def underscoresApart : List Char → Bool
  | '_' :: '_' :: _ => false
  | _ :: rest => underscoresApart rest
  | [] => true

/-- Whether underscores may be left out of a text: none is at its ends or beside another one. -/
def isJoined (text : List Char) : Bool :=
  text.head? != some '_' && text.getLast? != some '_' && underscoresApart text

/-- A numeral of ASCII characters with blanks around it or with underscores in it, but not both. -/
def readLoose? (text : List Char) : Option Binary64 :=
  (readSigned? (trimNumeral text)).or
    (if isJoined text then readSigned? (text.filter (· != '_')) else none)

/-- A numeral with blanks around it, digits of any script and underscores between digits. -/
def read? (text : String) : Option Binary64 := do
  let (negative, rest) ← numeralParts? text.toList
  readUnsigned? negative rest

end ClientModel.Binary64
