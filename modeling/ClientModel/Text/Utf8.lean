/-
This file reads bytes as text. Bytes that are no UTF-8 text fail at the first sequence that is
broken off, goes on with a wrong byte, or starts with one; reading loosely puts the replacement
character for each such sequence instead.
-/

import ClientModel.Text.Hex
import ClientModel.Text.Reading

namespace ClientModel.Text

/-! ### Sequences -/

/-- What can be wrong with the bytes of a character. -/
inductive SequenceProblem where
  /-- The first byte starts no character. -/
  | start
  /-- A later byte is none that can follow. -/
  | continuation
  /-- The bytes end inside a character. -/
  | truncated
  deriving DecidableEq, Repr

/-- How a problem is named. -/
def SequenceProblem.reason : SequenceProblem → String
  | .start => "invalid start byte"
  | .continuation => "invalid continuation byte"
  | .truncated => "unexpected end of data"

/-- What stands at the start of some bytes: a character, or a broken sequence; each with the
number of bytes it takes. -/
inductive ByteSequence where
  | character (code length : Nat)
  | broken (problem : SequenceProblem) (length : Nat)
  deriving DecidableEq, Repr

/-- Reads the bytes that follow the first of a character. The next one has to lie between `lower`
and `upper`, the others between the usual bounds; `code` and `taken` are what was read so far. -/
def readFollowing (lower upper code taken : Nat) : (count : Nat) → List UInt8 → ByteSequence
  | 0, _ => .character code taken
  | _ + 1, [] => .broken .truncated taken
  | count + 1, byte :: rest =>
    if lower ≤ byte.toNat && byte.toNat ≤ upper then
      readFollowing 0x80 0xBF (code * 64 + (byte.toNat - 0x80)) (taken + 1) count rest
    else .broken .continuation taken

/-- The bounds of the second byte: they exclude the longer forms of a character, halves of a pair,
and codes above the last. -/
def secondBounds (first : Nat) : Nat × Nat :=
  if first == 0xE0 then (0xA0, 0xBF)
  else if first == 0xED then (0x80, 0x9F)
  else if first == 0xF0 then (0x90, 0xBF)
  else if first == 0xF4 then (0x80, 0x8F)
  else (0x80, 0xBF)

/-- The sequence that a byte starts. -/
def sequenceAt (byte : UInt8) (rest : List UInt8) : ByteSequence :=
  let first := byte.toNat
  let (lower, upper) := secondBounds first
  if first < 0x80 then .character first 1
  else if first < 0xC2 then .broken .start 1
  else if first < 0xE0 then readFollowing lower upper (first - 0xC0) 1 1 rest
  else if first < 0xF0 then readFollowing lower upper (first - 0xE0) 1 2 rest
  else if first < 0xF5 then readFollowing lower upper (first - 0xF0) 1 3 rest
  else .broken .start 1

/-! ### Faults -/

/-- Where bytes fail to be text. -/
structure EncodingFault where
  problem : SequenceProblem
  position : Nat
  length : Nat
  first : UInt8
  deriving DecidableEq, Repr

/-- The text of a fault. -/
def EncodingFault.message (fault : EncodingFault) : String :=
  let start := "'utf-8' codec can't decode "
  let reason := fault.problem.reason
  if fault.length ≤ 1 then
    let digits := String.ofList (hexDigits 2 fault.first.toNat)
    s!"{start}byte 0x{digits} in position {fault.position}: {reason}"
  else
    let last := fault.position + fault.length - 1
    s!"{start}bytes in position {fault.position}-{last}: {reason}"

/-- The first fault of some bytes. `skip` is the number of bytes that still belong to the
character before. -/
def faultFrom? : (skip position : Nat) → List UInt8 → Option EncodingFault
  | _, _, [] => none
  | skip + 1, position, _ :: rest => faultFrom? skip (position + 1) rest
  | 0, position, byte :: rest =>
    match sequenceAt byte rest with
    | .character _ length => faultFrom? (length - 1) (position + 1) rest
    | .broken problem length => some ⟨problem, position, length, byte⟩

/-- The text of bytes, or where they fail to be one. -/
def readUtf8 (bytes : ByteArray) : Except EncodingFault String :=
  match String.fromUTF8? bytes with
  | some text => .ok text
  | none => .error ((faultFrom? 0 0 bytes.toList).getD ⟨.truncated, bytes.size, 0, 0⟩)

/-! ### Reading sequence by sequence -/

/-- What comes of reading bytes sequence by sequence. `skip` is the number of bytes that still
belong to the sequence before. -/
def utf8From : (skip : Nat) → List UInt8 → Reading
  | _, [] => []
  | skip + 1, _ :: rest => utf8From skip rest
  | 0, byte :: rest =>
    match sequenceAt byte rest with
    | .character code length => some (Char.ofNat code) :: utf8From (length - 1) rest
    | .broken _ length => none :: utf8From (length - 1) rest

/-- The text of bytes, whatever is no text replaced. -/
def readUtf8Loosely (bytes : ByteArray) : String :=
  match String.fromUTF8? bytes with
  | some text => text
  | none => (utf8From 0 bytes.toList).loosely

end ClientModel.Text
