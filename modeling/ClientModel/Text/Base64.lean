/-
This file reads bytes that are written in base sixty-four. Characters that are no digits of that
base are skipped; the digits end at the padding that completes a group of four.
-/

namespace ClientModel.Text

/-- The value of a digit in base sixty-four. -/
def base64Value? (character : Char) : Option Nat :=
  if 'A' ≤ character && character ≤ 'Z' then some (character.toNat - 65)
  else if 'a' ≤ character && character ≤ 'z' then some (character.toNat - 71)
  else if '0' ≤ character && character ≤ '9' then some (character.toNat + 4)
  else if character == '+' then some 62
  else if character == '/' then some 63
  else none

/-- The bytes that a group of digits writes: one fewer than it has digits. -/
def base64Group (digits : List Nat) : List UInt8 :=
  let value := (digits ++ List.replicate (4 - digits.length) 0).foldl (fun sum digit =>
    sum * 64 + digit) 0
  ([value / 65536, value / 256 % 256, value % 256].take (digits.length - 1)).map (·.toUInt8)

/-- The bytes of a text; `none` where the digits end inside a group that is not padded. `group`
holds the digits of the last group, `pads` counts the padding behind them. -/
def readBase64? : (group : List Nat) → (pads : Nat) → List Char → Option (List UInt8)
  | group, _, [] => if group.isEmpty then some [] else none
  | group, pads, character :: rest =>
    if character == '=' then
      if 2 ≤ group.length && 4 ≤ group.length + pads + 1 then some (base64Group group)
      else readBase64? group (if 2 ≤ group.length then pads + 1 else pads) rest
    else
      match base64Value? character with
      | none => readBase64? group pads rest
      | some digit =>
        if group.length == 3 then
          (readBase64? [] 0 rest).map (base64Group (group ++ [digit]) ++ ·)
        else readBase64? (group ++ [digit]) 0 rest

end ClientModel.Text
