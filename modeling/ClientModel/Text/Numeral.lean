/-
This file reads integers that are written as people write them: blanks around the numeral, a
sign, digits of any script, and single underscores between digits.
-/

import ClientModel.Text.Blank
import ClientModel.Text.Digit

namespace ClientModel.Text

/-! ### Digits -/

/-- The natural that a text of ASCII digits writes. -/
def naturalOf (digits : List Char) : Nat :=
  digits.foldl (fun value digit => value * 10 + (digit.toNat - 48)) 0

/-- A decimal digit of any script as the ASCII digit of its value. -/
def asciiDigitFor (character : Char) : Char :=
  match decimalValue? character with
  | some value => Char.ofNat (48 + value)
  | none => character

/-- The text without the underscores that stand between two digits; `none` where one stands
elsewhere. -/
def withoutDigitSeparators? : List Char → Option (List Char)
  | [] => some []
  | '_' :: _ => none
  | character :: '_' :: next :: rest =>
    if isAsciiDigit character && isAsciiDigit next then
      (withoutDigitSeparators? (next :: rest)).map (character :: ·)
    else none
  | character :: rest => (withoutDigitSeparators? rest).map (character :: ·)

/-! ### Signs and blanks -/

/-- The text without a sign, and whether the sign was a minus. -/
def splitSign : List Char → Bool × List Char
  | '-' :: rest => (true, rest)
  | '+' :: rest => (false, rest)
  | rest => (false, rest)

/-- A blank that may stand around a numeral: any but the four information separators. -/
def isNumeralBlank (character : Char) : Bool :=
  isBlank character && !(0x1C ≤ character.toNat && character.toNat ≤ 0x1F)

/-- A text without such blanks at its ends. -/
def trimNumeral (characters : List Char) : List Char :=
  ((characters.dropWhile isNumeralBlank).reverse.dropWhile isNumeralBlank).reverse

/-- The sign of a numeral, and the rest of it in ASCII digits without blanks and underscores. -/
def numeralParts? (characters : List Char) : Option (Bool × List Char) :=
  let (negative, rest) := splitSign ((trimNumeral characters).map asciiDigitFor)
  (withoutDigitSeparators? rest).map (negative, ·)

/-! ### Integers -/

/-- The longest integer that is read, in digits. -/
def longestInteger : Nat := 4300

/-- How an integer is reported that has too many digits to be written. -/
def unwrittenIntegerMessage : String :=
  s!"Exceeds the limit ({longestInteger} digits) for integer string conversion; " ++
    "use sys.set_int_max_str_digits() to increase the limit"

/-- Whether an integer has too many digits to be written. -/
def isLongInteger (value : Int) : Bool := Nat.pow 10 longestInteger ≤ value.natAbs

/-- How an integer of too many digits is reported. -/
def longIntegerMessage (digits : Nat) : String :=
  s!"Exceeds the limit ({longestInteger} digits) for integer string conversion: value has " ++
    s!"{digits} digits; use sys.set_int_max_str_digits() to increase the limit"

/-- The integer that a text writes. -/
def readInteger? (characters : List Char) : Option Int := do
  let (negative, digits) ← numeralParts? characters
  if digits.isEmpty || !digits.all isAsciiDigit || longestInteger < digits.length then none
  else
    let magnitude : Int := naturalOf digits
    some (if negative then -magnitude else magnitude)

end ClientModel.Text
