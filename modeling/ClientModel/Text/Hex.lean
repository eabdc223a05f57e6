/-
This file writes and reads numbers in base sixteen with a fixed number of digits, the form in
which every format of this library escapes a character.
-/

namespace ClientModel.Text

/-! ### Writing -/

/-- The digit for a value below sixteen, in lower case. -/
def hexDigit (value : Nat) : Char :=
  if value < 10 then Char.ofNat (48 + value) else Char.ofNat (87 + value)

/-- The last `width` digits of a number in base sixteen. -/
def hexDigits : (width : Nat) → (value : Nat) → List Char
  | 0, _ => []
  | width + 1, value => hexDigits width (value / 16) ++ [hexDigit (value % 16)]

/-- The number of digits asked for is the number written. -/
theorem length_hexDigits (width value : Nat) : (hexDigits width value).length = width := by
  induction width generalizing value with
  | zero => rfl
  | succ width inductionHypothesis => simp [hexDigits, inductionHypothesis]

/-! ### Reading -/

/-- The value of a digit in base sixteen, in either case. -/
def hexValue? (character : Char) : Option Nat :=
  if '0' ≤ character && character ≤ '9' then some (character.toNat - 48)
  else if 'a' ≤ character && character ≤ 'f' then some (character.toNat - 87)
  else if 'A' ≤ character && character ≤ 'F' then some (character.toNat - 55)
  else none

/-- The number that a text of digits in base sixteen writes; `none` where another character
stands among them. -/
def readHex? (characters : List Char) : Option Nat :=
  characters.foldlM (fun value character => (hexValue? character).map (value * 16 + ·)) 0

/-- A digit that is written reads back. -/
theorem hexValue?_hexDigit {value : Nat} (small : value < 16) :
    hexValue? (hexDigit value) = some value := by
  have each : ∀ digit ∈ List.range 16, hexValue? (hexDigit digit) = some digit := by decide
  exact each value (List.mem_range.mpr small)

end ClientModel.Text
