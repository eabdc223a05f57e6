/-
This file reads texts in which a backslash starts the description of a character: by its code, or
by a letter. All other bytes are the characters of the same code. In raw texts only the codes of
four and of eight digits are known.
-/

import ClientModel.Text.Hex
import ClientModel.Text.Reading

namespace ClientModel.Text.Escaped

/-! ### Codes -/

/-- The value of the digits that bytes start with, and how many they are; at most `most`. -/
def hexRun : (most value count : Nat) → List UInt8 → Nat × Nat
  | 0, value, count, _ => (value, count)
  | _ + 1, value, count, [] => (value, count)
  | most + 1, value, count, byte :: rest =>
    match hexValue? (Char.ofNat byte.toNat) with
    | some digit => hexRun most (value * 16 + digit) (count + 1) rest
    | none => (value, count)

/-- The same for digits up to seven. -/
def octalRun : (most value count : Nat) → List UInt8 → Nat × Nat
  | 0, value, count, _ => (value, count)
  | _ + 1, value, count, [] => (value, count)
  | most + 1, value, count, byte :: rest =>
    if 0x30 ≤ byte.toNat && byte.toNat ≤ 0x37 then
      octalRun most (value * 8 + (byte.toNat - 0x30)) (count + 1) rest
    else (value, count)

/-- The character of a code, if there is one. -/
def character? (code : Nat) : Option Char :=
  if code < 0xD800 || (0xDFFF < code && code ≤ 0x10FFFF) then some (Char.ofNat code) else none

/-- A character that is described by so many digits, which follow a backslash and a letter. -/
def coded (digits : Nat) (rest : List UInt8) : Reading × Nat :=
  let (value, count) := hexRun digits 0 0 rest
  if count == digits then ([character? value], 2 + count) else ([none], 2 + count)

/-- A character that is described by its name; no name is known. -/
def named : List UInt8 → Reading × Nat
  | 0x7B :: rest =>
    match rest.span (· != 0x7D) with
    | ([], _ :: _) => ([none], 3)
    | (name, []) => ([none], 3 + name.length)
    | (name, _ :: _) => ([none], 4 + name.length)
  | _ => ([none], 2)

/-! ### Pieces -/

/-- The characters that letters and marks describe. -/
def letters : List (UInt8 × Char) := [
  (0x5C, '\\'), (0x27, '\x27'), (0x22, '"'), (0x61, '\x07'), (0x62, '\x08'), (0x66, '\x0C'),
  (0x6E, '\n'), (0x72, '\r'), (0x74, '\t'), (0x76, '\x0B')]

/-- The character of the same code. -/
def plain (byte : UInt8) : Option Char := some (Char.ofNat byte.toNat)

/-- What a backslash and the byte after it describe. -/
def described (byte : UInt8) (rest : List UInt8) : Reading × Nat :=
  match letters.lookup byte with
  | some character => ([some character], 2)
  | none =>
    if byte == 0x0A then ([], 2)
    else if byte == 0x78 then coded 2 rest
    else if byte == 0x75 then coded 4 rest
    else if byte == 0x55 then coded 8 rest
    else if byte == 0x4E then named rest
    else
      let (value, count) := octalRun 3 0 0 (byte :: rest)
      if count == 0 then ([some '\\', plain byte], 2) else ([character? value], 1 + count)

/-- The piece that a byte starts. -/
def pieceAt (byte : UInt8) (rest : List UInt8) : Reading × Nat :=
  if byte != 0x5C then ([plain byte], 1)
  else match rest with
    | [] => ([none], 1)
    | next :: more => described next more

/-- The piece that a byte of a raw text starts. -/
def rawPieceAt (byte : UInt8) (rest : List UInt8) : Reading × Nat :=
  if byte != 0x5C then ([plain byte], 1)
  else match rest with
    | [] => ([none], 1)
    | next :: more =>
      if next == 0x75 then coded 4 more
      else if next == 0x55 then coded 8 more
      else ([some '\\', plain next], 2)

/-- Reads bytes. -/
def read (bytes : List UInt8) : Reading := Reading.byPieces pieceAt 0 bytes

/-- Reads the bytes of a raw text. -/
def readRaw (bytes : List UInt8) : Reading := Reading.byPieces rawPieceAt 0 bytes

end ClientModel.Text.Escaped
