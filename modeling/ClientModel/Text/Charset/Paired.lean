/-
This file reads the character sets in which some bytes are characters by themselves and the others
are so in pairs: the first of a pair tells the row of a grid and the second the column. The bytes
that may come first, and those that may come second, are given as ranges, and are counted through
all of them. A few cells hold more than one character, or are reserved.
-/

import ClientModel.Text.Charset.Grid

namespace ClientModel.Text

/-- The place of a byte among the bytes of some ranges. -/
def placeIn? : List (Nat × Nat) → Nat → Option Nat
  | [], _ => none
  | (low, high) :: rest, byte =>
    if low ≤ byte && byte ≤ high then some (byte - low)
    else (placeIn? rest byte).map (· + (high + 1 - low))

/-- A byte of the first range has the place that it has in there. -/
theorem placeIn?_of_mem {low high byte : Nat} (above : low ≤ byte) (below : byte ≤ high)
    (rest : List (Nat × Nat)) : placeIn? ((low, high) :: rest) byte = some (byte - low) := by
  simp [placeIn?, above, below]

/-- No byte has a place in no range. -/
theorem placeIn?_nil (byte : Nat) : placeIn? [] byte = none := rfl

/-- A character set of single bytes and pairs. -/
structure Paired where
  /-- Ranges of bytes that are characters by themselves, each with the code of its first one. -/
  singles : List (Nat × Nat × Nat)
  /-- The bytes that come first in a pair. -/
  firsts : List (Nat × Nat)
  /-- The bytes that come second in a pair. -/
  seconds : List (Nat × Nat)
  /-- The characters of pairs. -/
  grid : Grid
  /-- What comes of cells that do not hold one character, each with its row and its column. -/
  besides : List ((Nat × Nat) × Reading) := []
  deriving DecidableEq, Repr

namespace Paired

/-- The bytes of ASCII, each of which is a character by itself. -/
def ascii : Nat × Nat × Nat := (0x00, 0x7F, 0x00)

/-- The character that a byte is by itself. -/
def single? (set : Paired) (byte : Nat) : Option Char :=
  set.singles.findSome? fun (low, high, code) =>
    if low ≤ byte && byte ≤ high then some (Char.ofNat (code + (byte - low))) else none

/-- What comes of two bytes that tell a cell with something in it. -/
def pair? (set : Paired) (first second : Nat) : Option Reading := do
  let row ← placeIn? set.firsts first
  let column ← placeIn? set.seconds second
  match set.grid.character? row column with
  | some character => some [some character]
  | none => set.besides.lookup (row, column)

/-- What comes of the bytes from some byte on, and how many of them it takes. -/
def pieceAt (set : Paired) (byte : UInt8) (rest : List UInt8) : Reading × Nat :=
  match set.single? byte.toNat with
  | some character => ([some character], 1)
  | none =>
    match rest.head?.bind fun second => set.pair? byte.toNat second.toNat with
    | some characters => (characters, 2)
    | none => ([none], 1)

/-- Reads bytes. -/
def read (set : Paired) (bytes : List UInt8) : Reading := Reading.byPieces set.pieceAt 0 bytes

/-- Where ASCII comes first among the single bytes, its bytes are the characters of their code. -/
theorem single?_of_ascii {set : Paired} {others : List (Nat × Nat × Nat)} {byte : Nat}
    (singles_eq : set.singles = ascii :: others) (low : byte ≤ 0x7F) :
    set.single? byte = some (Char.ofNat byte) := by
  simp [single?, singles_eq, ascii, low]

/-- A byte that is a character by itself is read as such, whatever follows. -/
theorem pieceAt_of_single? {set : Paired} {byte : UInt8} {character : Char}
    (own : set.single? byte.toNat = some character) (rest : List UInt8) :
    set.pieceAt byte rest = ([some character], 1) := by
  simp [pieceAt, own]

end Paired

end ClientModel.Text
