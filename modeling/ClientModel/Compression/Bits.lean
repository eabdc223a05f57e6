/-
This file reads bits. The bits of a byte come lowest first, and a number is written with its
lowest bit in front. Bytes are taken whole from where the next byte begins.
-/

namespace ClientModel.Compression

/-- Bits that are still to be read. -/
abbrev Bits := List Bool

namespace Bits

/-- The lowest bits of a number, lowest first. -/
def ofNumber : (count : Nat) → Nat → Bits
  | 0, _ => []
  | count + 1, number => (number % 2 == 1) :: ofNumber count (number / 2)

/-- The bits of bytes. -/
def ofBytes (bytes : List UInt8) : Bits := bytes.flatMap fun byte => ofNumber 8 byte.toNat

/-- Takes a number of so many bits, and leaves the rest; nothing where there are too few. -/
def take? : (count : Nat) → Bits → Option (Nat × Bits)
  | 0, bits => some (0, bits)
  | _ + 1, [] => none
  | count + 1, bit :: rest =>
    (take? count rest).map fun (number, left) => (bit.toNat + 2 * number, left)

/-- The bits from the next byte on; bytes end where the bits do. -/
def atByte (bits : Bits) : Bits := bits.drop (bits.length % 8)

/-- Taking a number gives back the one that was written. -/
theorem take?_ofNumber_append (count number : Nat) (rest : Bits) :
    take? count (ofNumber count number ++ rest) = some (number % Nat.pow 2 count, rest) := by
  induction count generalizing number with
  | zero => simp [take?, ofNumber, Nat.mod_one]
  | succ count taken =>
    simp only [ofNumber, List.cons_append, take?, taken, Option.map_some]
    rw [show Nat.pow 2 (count + 1) = 2 * Nat.pow 2 count from Nat.pow_succ', Nat.mod_mul]
    rcases Nat.mod_two_eq_zero_or_one number with even | odd
    · simp [even]
    · simp [odd]

/-- A byte is eight bits. -/
theorem length_ofNumber (count number : Nat) : (ofNumber count number).length = count := by
  induction count generalizing number with
  | zero => rfl
  | succ count length => simp [ofNumber, length]

end Bits

end ClientModel.Compression
