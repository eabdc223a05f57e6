/-
This file unpacks deflated bytes that stand in a container: a head in front of them and a check of
what they hold after them. Two containers are known, and the bytes may also stand alone.
-/

import ClientModel.Compression.Deflate

namespace ClientModel.Compression

/-! ### Checks -/

/-- One bit of a check sum by polynomial division. -/
def divisionStep (remainder : UInt32) : UInt32 :=
  if remainder % 2 == 1 then (remainder >>> 1) ^^^ 0xEDB88320 else remainder >>> 1

/-- One byte of a check sum by polynomial division. -/
def divisionByte (remainder : UInt32) (byte : UInt8) : UInt32 :=
  (List.range 8).foldl (fun remainder _ => divisionStep remainder) (remainder ^^^ byte.toUInt32)

/-- The check sum by polynomial division. -/
def divisionCheck (bytes : Written) : UInt32 := bytes.foldl divisionByte 0xFFFFFFFF ^^^ 0xFFFFFFFF

/-- The check sum of two sums, that of the bytes and that of the sums so far. -/
def sumCheck (bytes : Written) : Nat :=
  let (low, high) := bytes.foldl (fun (low, high) byte =>
    let low := (low + byte.toNat) % 65521
    (low, (high + low) % 65521)) (1, 0)
  high * 0x10000 + low

/-! ### Heads -/

/-- A head: the bytes after it, or why there are none. -/
inductive Head where
  | read (rest : List UInt8)
  /-- The bytes end before the head does. -/
  | unfinished
  | faulty (fault : PackingFault)
  deriving DecidableEq, Repr

/-- The bytes after some that are passed over. -/
def passed? (count : Nat) (bytes : List UInt8) : Option (List UInt8) :=
  if bytes.length < count then none else some (bytes.drop count)

/-- The bytes after a text that ends with a null byte. -/
def afterText? (bytes : List UInt8) : Option (List UInt8) :=
  match bytes.dropWhile (· != 0) with
  | [] => none
  | _ :: rest => some rest

/-- The bytes after a field that has its length in front. -/
def afterField? : List UInt8 → Option (List UInt8)
  | low :: high :: rest => passed? (low.toNat + 256 * high.toNat) rest
  | _ => none

/-- The bytes after the parts of a head that flags announce: a field and two texts. -/
def afterParts? (flags : Nat) (bytes : List UInt8) : Option (List UInt8) := do
  let bytes ← if flags.testBit 2 then afterField? bytes else some bytes
  let bytes ← if flags.testBit 3 then afterText? bytes else some bytes
  if flags.testBit 4 then afterText? bytes else some bytes

/-- The head of the container with names and times. -/
def fileHead (bytes : List UInt8) : Head :=
  match bytes with
  | first :: second :: rest =>
    if first != 0x1F || second != 0x8B then .faulty .header
    else
      match rest with
      | method :: flags :: later =>
        if method != 8 then .faulty .method
        else if 0x20 ≤ flags then .faulty .headerFlags
        else
          match (passed? 6 later).bind (afterParts? flags.toNat) with
          | none => .unfinished
          | some rest =>
            if flags.toNat.testBit 1 then
              let check := divisionCheck (bytes.take (bytes.length - rest.length)).toArray
              match rest with
              | low :: high :: rest =>
                if low.toNat + 256 * high.toNat == check.toNat % 0x10000 then .read rest
                else .faulty .headerCheck
              | _ => .unfinished
            else .read rest
      | _ => .unfinished
  | _ => .unfinished

/-- The head of the container for streams. -/
def streamHead : List UInt8 → Head
  | method :: flags :: rest =>
    if (method.toNat * 256 + flags.toNat) % 31 != 0 then .faulty .header
    else if method.toNat % 16 != 8 then .faulty .method
    else if 7 < method.toNat / 16 then .faulty .windowSize
    else if flags.toNat.testBit 5 then
      if rest.length < 4 then .unfinished else .faulty .dictionary
    else .read rest
  | _ => .unfinished

/-! ### Containers -/

/-- Unpacks what a head stands in front of, and checks it by what follows. -/
def contained (head : Head) (fault? : Written → Bits → Option PackingFault) :
    Except PackingFault Written :=
  match head with
  | .faulty fault => .error fault
  | .unfinished => .ok #[]
  | .read rest =>
    match inflate (.ofBytes rest) with
    | .faulty fault => .error fault
    | .unfinished written => .ok written
    | .whole written rest =>
      match fault? written rest.atByte with
      | some fault => .error fault
      | none => .ok written

/-- What is wrong with the checks after the container with names and times, if they are there. -/
def fileFault? (written : Written) (bits : Bits) : Option PackingFault :=
  match bits.take? 32 with
  | none => none
  | some (check, rest) =>
    if check != (divisionCheck written).toNat then some .dataCheck
    else
      match rest.take? 32 with
      | none => none
      | some (length, _) => if length != written.size % Nat.pow 2 32 then some .dataLength else none

/-- What is wrong with the check after the container for streams, if it is there; its highest byte
comes first. -/
def streamFault? (written : Written) (bits : Bits) : Option PackingFault :=
  match bits.take? 32 with
  | none => none
  | some (check, _) =>
    let turned := check % 256 * Nat.pow 2 24 + check / 256 % 256 * Nat.pow 2 16 +
      check / Nat.pow 2 16 % 256 * 256 + check / Nat.pow 2 24
    if turned != sumCheck written then some .dataCheck else none

/-- Unpacks the container with names and times. -/
def unpackFile (bytes : List UInt8) : Except PackingFault Written :=
  contained (fileHead bytes) fileFault?

/-- Unpacks the container for streams. -/
def unpackStream (bytes : List UInt8) : Except PackingFault Written :=
  contained (streamHead bytes) streamFault?

/-- Unpacks deflated bytes that stand alone. -/
def unpackBare (bytes : List UInt8) : Except PackingFault Written :=
  contained (.read bytes) fun _ _ => none

end ClientModel.Compression
