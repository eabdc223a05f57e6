/-
This file reads texts in seven bits. Characters beyond ASCII stand in sections of sixty-four signs,
each sign six bits of units of two bytes; a plus sign opens a section, and what is no such sign
closes it.
-/

import ClientModel.Text.Charset.Wide

namespace ClientModel.Text.Shifted

/-! ### Signs -/

/-- The six bits of a sign. -/
def bits? (byte : UInt8) : Option Nat :=
  let code := byte.toNat
  if 0x41 ≤ code && code ≤ 0x5A then some (code - 0x41)
  else if 0x61 ≤ code && code ≤ 0x7A then some (code - 0x61 + 26)
  else if 0x30 ≤ code && code ≤ 0x39 then some (code - 0x30 + 52)
  else if code == 0x2B then some 62
  else if code == 0x2F then some 63
  else none

/-- What was read of a section and is no character yet. -/
structure Section where
  /-- How many bits there are. -/
  count : Nat
  /-- The number that they write. -/
  number : Nat
  /-- The first half of a pair of units. -/
  half : Option Nat
  deriving DecidableEq, Repr

/-- A section of which nothing was read. -/
def Section.empty : Section := ⟨0, 0, none⟩

/-- The characters that a unit completes, and the half that waits for the next one. -/
def withUnit (half : Option Nat) (unit : Nat) : Reading × Option Nat :=
  match half with
  | some high =>
    if Wide.isLowHalf unit then ([some (Wide.joined high unit)], none)
    else if Wide.isHighHalf unit then ([none], some unit)
    else ([none, Wide.character? unit], none)
  | none =>
    if Wide.isHighHalf unit then ([], some unit) else ([Wide.character? unit], none)

/-- A section with six more bits, and the characters that they complete. -/
def Section.add (bits : Nat) (current : Section) : Reading × Section :=
  let count := current.count + 6
  let number := current.number * 64 + bits
  if 16 ≤ count then
    let scale := Nat.pow 2 (count - 16)
    let (characters, half) := withUnit current.half (number / scale)
    (characters, ⟨count - 16, number % scale, half⟩)
  else ([], ⟨count, number, current.half⟩)

/-- Whether a section may be closed: what is left are fewer than six bits, all zero. -/
def Section.isWhole (current : Section) : Bool := current.count < 6 && current.number == 0

/-! ### Texts -/

/-- Where the reading stands. -/
inductive State where
  | outside
  /-- After a plus sign that may open a section. -/
  | opening
  | inside (current : Section)
  deriving DecidableEq, Repr

/-- What comes of a byte outside of sections. -/
def outsideStep (byte : UInt8) : Reading × State :=
  if byte == 0x2B then ([], .opening)
  else if byte.toNat < 0x80 then ([some (Char.ofNat byte.toNat)], .outside)
  else ([none], .outside)

/-- What comes of a byte. -/
def step (byte : UInt8) : State → Reading × State
  | .outside => outsideStep byte
  | .opening =>
    if byte == 0x2D then ([some '+'], .outside)
    else match bits? byte with
      | some bits =>
        let (characters, current) := Section.empty.add bits
        (characters, .inside current)
      | none => ([none], .outside)
  | .inside current =>
    match bits? byte with
    | some bits => let (characters, grown) := current.add bits; (characters, .inside grown)
    | none =>
      if !current.isWhole then ([none], .outside)
      else
        let half := if current.half.isSome && byte.toNat < 0x80 then [none] else []
        if byte == 0x2D then (half, .outside)
        else let (characters, state) := outsideStep byte; (half ++ characters, state)

/-- Reads bytes from some state on. -/
def readFrom : State → List UInt8 → Reading
  | .inside current, [] => if current.isWhole && current.half.isNone then [] else [none]
  | _, [] => []
  | state, byte :: rest =>
    let (characters, next) := step byte state
    characters ++ readFrom next rest

/-- Reads bytes. -/
def read (bytes : List UInt8) : Reading := readFrom .outside bytes

end ClientModel.Text.Shifted
