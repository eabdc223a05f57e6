/-
This file reads texts that start with their ASCII characters; after the last hyphen, digits and
letters say which other characters are to be put in, and where. Each number there counts how many
places are passed over, going through the text once for each higher code.
-/

import ClientModel.Text.Charset.Escaped

namespace ClientModel.Text.Punycode

/-! ### Numbers -/

/-- The value of a letter or a digit. -/
def digit? (byte : UInt8) : Option Nat :=
  let code := byte.toNat
  if 0x41 ≤ code && code ≤ 0x5A then some (code - 0x41)
  else if 0x61 ≤ code && code ≤ 0x7A then some (code - 0x61)
  else if 0x30 ≤ code && code ≤ 0x39 then some (code - 0x30 + 26)
  else none

/-- From which value on a digit goes on with its number; it depends on the place of the digit. -/
def threshold (place bias : Nat) : Nat := max 1 (min 26 (36 * (place + 1) - bias))

/-- The number that bytes start with, and the bytes after it; none where the bytes end before it,
or go on with what is no digit. -/
def number? (bias : Nat) : (place weight sum : Nat) → List UInt8 → Option (Nat × List UInt8)
  | _, _, _, [] => none
  | place, weight, sum, byte :: rest =>
    match digit? byte with
    | none => none
    | some digit =>
      let grown := sum + digit * weight
      let least := threshold place bias
      if digit < least then some (grown, rest)
      else number? bias (place + 1) (weight * (36 - least)) grown rest

/-- Halves a number until it is small, and counts by how much. -/
def settled : (fuel divisions delta : Nat) → Nat
  | 0, divisions, delta => divisions + 36 * delta / (delta + 38)
  | fuel + 1, divisions, delta =>
    if delta ≤ 455 then divisions + 36 * delta / (delta + 38)
    else settled fuel (divisions + 36) (delta / 35)

/-- The bias after a number, in a text of so many characters. -/
def adapted (delta : Nat) (isFirst : Bool) (length : Nat) : Nat :=
  let damped := if isFirst then delta / 700 else delta / 2
  let grown := damped + damped / length
  settled grown 0 grown

/-! ### Texts -/

/-- Puts characters into a text. `next` is the place where the search goes on, `code` the code
that was put in last. -/
def inserted : (fuel : Nat) → (isFirst : Bool) → (code bias next : Nat) → Reading →
    List UInt8 → Reading
  | 0, _, _, _, _, text, _ => text
  | fuel + 1, isFirst, code, bias, next, text, bytes =>
    match bytes with
    | [] => text
    | _ :: _ =>
      match number? bias 0 1 0 bytes with
      | none => text
      | some (delta, rest) =>
        let length := text.length + 1
        let passed := next + delta
        let raised := code + passed / length
        let reached := if raised > 0x10FFFF then 0x3F else raised
        let place := passed % length
        let grown := text.insertIdx place (Escaped.character? reached)
        inserted fuel false reached (adapted delta isFirst length) (place + 1) grown rest

/-- A byte of ASCII. -/
def plain? (byte : UInt8) : Option Char :=
  if byte.toNat < 0x80 then some (Char.ofNat byte.toNat) else none

/-- The bytes before the last hyphen and those after it; without a hyphen all come after. -/
def halves (bytes : List UInt8) : List UInt8 × List UInt8 :=
  let (after, before) := bytes.reverse.span (· != 0x2D)
  (before.tail.reverse, after.reverse)

/-- The first byte beyond ASCII, and where it stands. -/
def beyondAscii? : (position : Nat) → List UInt8 → Option (UInt8 × Nat)
  | _, [] => none
  | position, byte :: rest =>
    if byte.toNat < 0x80 then beyondAscii? (position + 1) rest else some (byte, position)

/-- Reads bytes; the numbers must be ASCII. -/
def read (bytes : List UInt8) : Except (UInt8 × Nat) Reading :=
  let (before, after) := halves bytes
  match beyondAscii? 0 after with
  | some fault => .error fault
  | none => .ok (inserted after.length true 0x80 72 0 (before.map plain?) after)

end ClientModel.Text.Punycode
