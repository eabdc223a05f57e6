/-
This file holds the digits of Unicode. A decimal digit has a value from zero to nine and stands
in one of the runs of ten that the standard lists, script by script; a digit is a decimal digit
or one of the superscript, subscript and enclosed figures that cannot be written side by side to
form a number. The main statement is that the ten ASCII digits have the values one expects.
-/

namespace ClientModel.Text

/-! ### The data of the standard -/

/-- The zeros of the scripts: each starts a run of ten decimal digits in rising order. -/
def decimalZeros : List Nat := [
  0x30, 0x660, 0x6F0, 0x7C0, 0x966, 0x9E6, 0xA66, 0xAE6, 0xB66, 0xBE6, 0xC66, 0xCE6, 0xD66,
  0xDE6, 0xE50, 0xED0, 0xF20, 0x1040, 0x1090, 0x17E0, 0x1810, 0x1946, 0x19D0, 0x1A80, 0x1A90,
  0x1B50, 0x1BB0, 0x1C40, 0x1C50, 0xA620, 0xA8D0, 0xA900, 0xA9D0, 0xA9F0, 0xAA50, 0xABF0, 0xFF10,
  0x104A0, 0x10D30, 0x11066, 0x110F0, 0x11136, 0x111D0, 0x112F0, 0x11450, 0x114D0, 0x11650,
  0x116C0, 0x11730, 0x118E0, 0x11950, 0x11C50, 0x11D50, 0x11DA0, 0x16A60, 0x16AC0, 0x16B50,
  0x1D7CE, 0x1D7D8, 0x1D7E2, 0x1D7EC, 0x1D7F6, 0x1E140, 0x1E2F0, 0x1E950, 0x1FBF0]

/-- The figures that are digits and not decimal digits, as closed ranges. -/
def figureRanges : List (Nat × Nat) := [
  (0xB2, 0xB3), (0xB9, 0xB9), (0x1369, 0x1371), (0x19DA, 0x19DA), (0x2070, 0x2070),
  (0x2074, 0x2079), (0x2080, 0x2089), (0x2460, 0x2468), (0x2474, 0x247C), (0x2488, 0x2490),
  (0x24EA, 0x24EA), (0x24F5, 0x24FD), (0x24FF, 0x24FF), (0x2776, 0x277E), (0x2780, 0x2788),
  (0x278A, 0x2792), (0x10A40, 0x10A43), (0x10E60, 0x10E68), (0x11052, 0x1105A),
  (0x1F100, 0x1F10A)]

/-! ### Tests and values -/

/-- The value of a decimal digit of any script. -/
def decimalValue? (character : Char) : Option Nat :=
  let code := character.toNat
  (decimalZeros.find? fun least => least ≤ code && code ≤ least + 9).map (code - ·)

/-- A decimal digit of any script, or a superscript, subscript or enclosed figure. -/
def isDigit (character : Char) : Bool :=
  (decimalValue? character).isSome ||
    figureRanges.any fun range => range.1 ≤ character.toNat && character.toNat ≤ range.2

/-- The ten ASCII digits, and nothing else. -/
def isAsciiDigit (character : Char) : Bool :=
  '0' ≤ character && character ≤ '9'

/-- An ASCII digit is its distance from the digit zero. -/
theorem decimalValue?_of_isAsciiDigit {character : Char} (digit : isAsciiDigit character = true) :
    decimalValue? character = some (character.toNat - 48) := by
  simp only [isAsciiDigit, Bool.and_eq_true, decide_eq_true_eq] at digit
  have lower : 48 ≤ character.toNat := digit.1
  have upper : character.toNat ≤ 57 := digit.2
  have first : decimalZeros = 0x30 :: decimalZeros.tail := rfl
  simp only [decimalValue?]
  rw [first, List.find?_cons_of_pos (by simp; omega)]
  rfl

/-- Every ASCII digit is a digit. -/
theorem isDigit_of_isAsciiDigit {character : Char} (digit : isAsciiDigit character = true) :
    isDigit character = true := by
  simp [isDigit, decimalValue?_of_isAsciiDigit digit]

end ClientModel.Text
