/-
This file defines codes of bits in which no code is the beginning of another. Such a code is given
by the length of the code of each symbol alone: shorter codes come first, and among those of one
length the order is that of the symbols.
-/

import ClientModel.Compression.Bits

namespace ClientModel.Compression

/-- A code, told by how many symbols have codes of each length. -/
structure PrefixCode where
  /-- How many codes have one bit, two bits and so on. -/
  counts : List Nat
  /-- The symbols in the order of their codes. -/
  symbols : Array Nat
  deriving DecidableEq, Repr

namespace PrefixCode

/-- The longest code, in bits. -/
def longest : Nat := 15

/-- The code in which symbols have codes of these lengths; none has a code of no bits. -/
def ofLengths (lengths : List Nat) : PrefixCode where
  counts := (List.range' 1 longest).map fun length => lengths.count length
  symbols :=
    let ofLength (length : Nat) : List Nat :=
      lengths.zipIdx.filterMap fun (own, symbol) => if own == length then some symbol else none
    ((List.range' 1 longest).flatMap ofLength).toArray

/-- What codes of the lengths from some length on leave over of so many beginnings; nothing where
there are more codes than can be. -/
def spareFrom? : (beginnings : Nat) → List Nat → Option Nat
  | beginnings, [] => some beginnings
  | beginnings, count :: counts =>
    if 2 * beginnings < count then none else spareFrom? (2 * beginnings - count) counts

/-- How many of the longest codes stand for nothing; nothing where there are too many codes. -/
def spare? (code : PrefixCode) : Option Nat := spareFrom? 1 code.counts

/-- Whether no symbol has a code. -/
def isEmpty (code : PrefixCode) : Bool := code.counts.all (· == 0)

/-- Whether no code has more than one bit. -/
def isShort (code : PrefixCode) : Bool := code.counts.tail.all (· == 0)

/-- Whether every sequence of bits begins with a code. -/
def isComplete (code : PrefixCode) : Bool := code.spare? == some 0

/-- What reading a symbol gives. -/
inductive Read where
  | symbol (number : Nat) (rest : Bits)
  /-- The bits end before a code does. -/
  | unfinished
  /-- The bits begin with no code. -/
  | unassigned
  deriving DecidableEq, Repr

/-- Reads a symbol whose code has the lengths of these counts. `value` is what the bits before
wrote, `first` the first code of that length, and `index` the number of the shorter codes. -/
def readFrom (symbols : Array Nat) : List Nat → (value first index : Nat) → Bits → Read
  | [], _, _, _, _ => .unassigned
  | _ :: _, _, _, _, [] => .unfinished
  | count :: counts, value, first, index, bit :: rest =>
    let value := 2 * value + bit.toNat
    let first := 2 * first
    if value < first + count then
      match symbols[index + (value - first)]? with
      | some symbol => .symbol symbol rest
      | none => .unassigned
    else if counts.all (· == 0) then .unassigned
    else readFrom symbols counts value (first + count) (index + count) rest

/-- Reads a symbol. -/
def read (code : PrefixCode) (bits : Bits) : Read := readFrom code.symbols code.counts 0 0 0 bits

end PrefixCode

end ClientModel.Compression
