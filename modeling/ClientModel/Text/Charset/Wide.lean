/-
This file reads texts whose characters are units of two or of four bytes. The bytes of a unit come
in either order; which it is may be told by a mark in front.
-/

import ClientModel.Text.Reading

namespace ClientModel.Text

/-! ### Units -/

/-- The order of the bytes of a unit. -/
inductive ByteOrder where
  /-- The highest byte first. -/
  | big
  /-- The lowest byte first. -/
  | little
  deriving DecidableEq, Repr

/-- The number that bytes write. -/
def ByteOrder.number (bytes : List UInt8) : ByteOrder → Nat
  | .big => bytes.foldl (fun number byte => number * 256 + byte.toNat) 0
  | .little => bytes.foldr (fun byte number => number * 256 + byte.toNat) 0

/-- The lowest byte first is the highest byte first, read backwards. -/
theorem ByteOrder.number_little (bytes : List UInt8) :
    ByteOrder.number bytes .little = ByteOrder.number bytes.reverse .big := by
  simp [ByteOrder.number, List.foldl_reverse]

namespace Wide

/-- Units of two bytes; a single byte at the end is no unit. -/
def pairs (order : ByteOrder) : List UInt8 → List (Option Nat)
  | [] => []
  | [_] => [none]
  | first :: second :: rest => some (order.number [first, second]) :: pairs order rest

/-- Units of four bytes; fewer at the end are no unit. -/
def quadruples (order : ByteOrder) : List UInt8 → List (Option Nat)
  | [] => []
  | first :: second :: third :: fourth :: rest =>
    some (order.number [first, second, third, fourth]) :: quadruples order rest
  | _ :: _ => [none]

/-! ### Characters -/

/-- The first half of a pair of units that are one character. -/
def isHighHalf (unit : Nat) : Bool := 0xD800 ≤ unit && unit ≤ 0xDBFF

/-- The second half of a pair of units that are one character. -/
def isLowHalf (unit : Nat) : Bool := 0xDC00 ≤ unit && unit ≤ 0xDFFF

/-- The character of a code; halves of pairs and codes above the last have none. -/
def character? (code : Nat) : Option Char :=
  if isHighHalf code || isLowHalf code || 0x10FFFF < code then none else some (Char.ofNat code)

/-- The character of two halves. -/
def joined (high low : Nat) : Char :=
  Char.ofNat (0x10000 + (high - 0xD800) * 0x400 + (low - 0xDC00))

/-- The characters of units of two bytes. `half` is the first half of a pair that was just
read. -/
def ofPairs : (half : Option Nat) → List (Option Nat) → Reading
  | none, [] => []
  | some _, [] => [none]
  | _, none :: _ => [none]
  | none, some unit :: rest =>
    if isHighHalf unit then ofPairs (some unit) rest else character? unit :: ofPairs none rest
  | some high, some unit :: rest =>
    if isLowHalf unit then some (joined high unit) :: ofPairs none rest
    else if isHighHalf unit then none :: ofPairs (some unit) rest
    else none :: character? unit :: ofPairs none rest

/-- The characters of units of four bytes. -/
def ofQuadruples (units : List (Option Nat)) : Reading := units.map fun unit => unit.bind character?

/-- Reads units of two bytes. -/
def readPairs (order : ByteOrder) (bytes : List UInt8) : Reading := ofPairs none (pairs order bytes)

/-- Reads units of four bytes. -/
def readQuadruples (order : ByteOrder) (bytes : List UInt8) : Reading :=
  ofQuadruples (quadruples order bytes)

/-- Two halves are one character, which has no unit of its own. -/
theorem ofPairs_halves {high low : Nat} (isHigh : isHighHalf high = true)
    (isLow : isLowHalf low = true) (rest : List (Option Nat)) :
    ofPairs none (some high :: some low :: rest) = some (joined high low) :: ofPairs none rest := by
  simp [ofPairs, isHigh, isLow]

end Wide

end ClientModel.Text
