/-
This file unpacks deflated bytes. They are a sequence of blocks; a block holds bytes as they are,
or symbols of two codes: bytes themselves, and lengths with distances that say what to write once
more. The codes are fixed, or told in front of the symbols, by a third code. Bytes that end too
early give what could be unpacked until then.
-/

import ClientModel.Compression.PrefixCode

namespace ClientModel.Compression

/-! ### Faults -/

/-- Why bytes cannot be unpacked. -/
inductive PackingFault where
  | header
  | method
  | headerFlags
  | headerCheck
  | windowSize
  /-- The bytes need others that are not at hand. -/
  | dictionary
  | blockType
  | storedLengths
  | tooManySymbols
  | lengthCode
  | repetition
  | noEnd
  | literalCode
  | distanceCode
  | literal
  | distance
  | tooFarBack
  | dataCheck
  | dataLength
  deriving DecidableEq, Repr

/-- What a fault says is wrong. -/
def PackingFault.cause : PackingFault → String
  | .header => "incorrect header check"
  | .method => "unknown compression method"
  | .headerFlags => "unknown header flags set"
  | .headerCheck => "header crc mismatch"
  | .windowSize => "invalid window size"
  | .dictionary => "a dictionary is needed"
  | .blockType => "invalid block type"
  | .storedLengths => "invalid stored block lengths"
  | .tooManySymbols => "too many length or distance symbols"
  | .lengthCode => "invalid code lengths set"
  | .repetition => "invalid bit length repeat"
  | .noEnd => "invalid code -- missing end-of-block"
  | .literalCode => "invalid literal/lengths set"
  | .distanceCode => "invalid distances set"
  | .literal => "invalid literal/length code"
  | .distance => "invalid distance code"
  | .tooFarBack => "invalid distance too far back"
  | .dataCheck => "incorrect data check"
  | .dataLength => "incorrect length check"

/-- The text of a fault. -/
def PackingFault.message (fault : PackingFault) : String :=
  if fault == .dictionary then "Error 2 while decompressing data"
  else s!"Error -3 while decompressing data: {fault.cause}"

/-! ### Outcomes -/

/-- What was unpacked. -/
abbrev Written := Array UInt8

/-- What comes of unpacking. -/
inductive Unpacking where
  /-- All is unpacked, and these bits follow. -/
  | whole (written : Written) (rest : Bits)
  /-- The bits end before. -/
  | unfinished (written : Written)
  | faulty (fault : PackingFault)
  deriving DecidableEq, Repr

/-- Goes on where all is unpacked. -/
def Unpacking.andThen (unpacking : Unpacking) (next : Written → Bits → Unpacking) : Unpacking :=
  match unpacking with
  | .whole written rest => next written rest
  | other => other

/-! ### Bytes as they are -/

/-- Writes so many bytes as they are. -/
def storedBytes : (count : Nat) → Written → Bits → Unpacking
  | 0, written, bits => .whole written bits
  | count + 1, written, bits =>
    match bits.take? 8 with
    | some (byte, rest) => storedBytes count (written.push byte.toUInt8) rest
    | none => .unfinished written

/-- A block of bytes as they are: their number, and the same with all bits turned, in front. -/
def storedBlock (written : Written) (bits : Bits) : Unpacking :=
  match bits.atByte.take? 32 with
  | some (lengths, rest) =>
    let count := lengths % 0x10000
    if count + lengths / 0x10000 == 0xFFFF then storedBytes count written rest
    else .faulty .storedLengths
  | none => .unfinished written

/-! ### Symbols -/

/-- The shortest length of each symbol for lengths, and how many bits are added to it. -/
def lengthSteps : Array (Nat × Nat) := #[
  (3, 0), (4, 0), (5, 0), (6, 0), (7, 0), (8, 0), (9, 0), (10, 0), (11, 1), (13, 1), (15, 1),
  (17, 1), (19, 2), (23, 2), (27, 2), (31, 2), (35, 3), (43, 3), (51, 3), (59, 3), (67, 4),
  (83, 4), (99, 4), (115, 4), (131, 5), (163, 5), (195, 5), (227, 5), (258, 0)]

/-- The shortest distance of each symbol for distances, and how many bits are added to it. -/
def distanceSteps : Array (Nat × Nat) := #[
  (1, 0), (2, 0), (3, 0), (4, 0), (5, 1), (7, 1), (9, 2), (13, 2), (17, 3), (25, 3), (33, 4),
  (49, 4), (65, 5), (97, 5), (129, 6), (193, 6), (257, 7), (385, 7), (513, 8), (769, 8),
  (1025, 9), (1537, 9), (2049, 10), (3073, 10), (4097, 11), (6145, 11), (8193, 12), (12289, 12),
  (16385, 13), (24577, 13)]

/-- Writes the byte at a distance so many times; what was just written counts. -/
def writeAgain (distance : Nat) : (count : Nat) → Written → Written
  | 0, written => written
  | count + 1, written =>
    writeAgain distance count (written.push (written[written.size - distance]?.getD 0))

/-- What is written again after a symbol for a length: the rest of the length, and the distance. -/
def again (distances : PrefixCode) (step : Nat × Nat) (written : Written) (bits : Bits) :
    Unpacking :=
  match bits.take? step.2 with
  | none => .unfinished written
  | some (more, bits) =>
    match distances.read bits with
    | .unfinished => .unfinished written
    | .unassigned => .faulty .distance
    | .symbol symbol bits =>
      match distanceSteps[symbol]? with
      | none => .faulty .distance
      | some (least, added) =>
        match bits.take? added with
        | none => .unfinished written
        | some (further, bits) =>
          if written.size < least + further then .faulty .tooFarBack
          else .whole (writeAgain (least + further) (step.1 + more) written) bits

/-- Writes what symbols say, up to the one that ends a block. There are at most so many. -/
def symbols (literals distances : PrefixCode) : (most : Nat) → Written → Bits → Unpacking
  | 0, written, _ => .unfinished written
  | most + 1, written, bits =>
    match literals.read bits with
    | .unfinished => .unfinished written
    | .unassigned => .faulty .literal
    | .symbol symbol rest =>
      if symbol < 256 then symbols literals distances most (written.push symbol.toUInt8) rest
      else if symbol == 256 then .whole written rest
      else
        match lengthSteps[symbol - 257]? with
        | none => .faulty .literal
        | some step => (again distances step written rest).andThen (symbols literals distances most)

/-- A block of symbols. -/
def symbolBlock (literals distances : PrefixCode) (written : Written) (bits : Bits) : Unpacking :=
  symbols literals distances (bits.length + 1) written bits

/-! ### Codes -/

/-- The code for bytes and lengths that needs not be told. -/
def fixedLiterals : PrefixCode :=
  .ofLengths (List.replicate 144 8 ++ List.replicate 112 9 ++ List.replicate 24 7 ++
    List.replicate 8 8)

/-- The code for distances that needs not be told. -/
def fixedDistances : PrefixCode := .ofLengths (List.replicate 32 5)

/-- Whether a code can be used: it is complete, or has no code of more than one bit. -/
def isUsable (code : PrefixCode) : Bool :=
  code.isComplete || (code.spare?.isSome && code.isShort)

/-- The symbols of the code for lengths of codes, in the order in which it is told. -/
def tellingOrder : List Nat := [16, 17, 18, 0, 8, 7, 9, 6, 10, 5, 11, 4, 12, 3, 13, 2, 14, 1, 15]

/-- What comes of something that is told in front of a block. -/
inductive Told (Content : Type) where
  | told (content : Content) (rest : Bits)
  | unfinished
  | faulty (fault : PackingFault)

/-- Takes so many numbers of three bits. -/
def takeThrees? : (count : Nat) → Bits → Option (List Nat × Bits)
  | 0, bits => some ([], bits)
  | count + 1, bits => do
    let (number, rest) ← bits.take? 3
    let (numbers, left) ← takeThrees? count rest
    some (number :: numbers, left)

/-- The lengths that a symbol of the code for lengths stands for, of which the last one before is
`last`: itself, or one a few times. -/
def toldLengths (symbol : Nat) (last : Option Nat) (bits : Bits) : Told (List Nat) :=
  let repeated (length : Option Nat) (least added : Nat) : Told (List Nat) :=
    match bits.take? added, length with
    | none, _ => .unfinished
    | some _, none => .faulty .repetition
    | some (more, rest), some length => .told (List.replicate (least + more) length) rest
  if symbol < 16 then .told [symbol] bits
  else if symbol == 16 then repeated last 3 2
  else if symbol == 17 then repeated (some 0) 3 3
  else repeated (some 0) 11 7

/-- Reads `count` lengths of codes, of which some are known; the last one is in front. Where the
code for them has no codes, each bit is a length of 0. -/
def lengthsFrom (code : PrefixCode) (count : Nat) : (most : Nat) → (known : List Nat) → Bits →
    Told (List Nat)
  | 0, _, _ => .unfinished
  | most + 1, known, bits =>
    if count ≤ known.length then .told known.reverse bits
    else
      let own : Told (List Nat) := match code.read bits with
        | .unfinished => .unfinished
        | .unassigned => .told [0] bits.tail
        | .symbol symbol rest => toldLengths symbol known.head? rest
      match own with
      | .unfinished => .unfinished
      | .faulty fault => .faulty fault
      | .told more rest =>
        if count < known.length + more.length then .faulty .repetition
        else lengthsFrom code count most (more ++ known) rest

/-- The code for the lengths of codes, given how many of them are told. -/
def lengthsCode (count : Nat) (bits : Bits) : Told PrefixCode :=
  match takeThrees? count bits with
  | none => .unfinished
  | some (numbers, rest) =>
    let told := tellingOrder.zip numbers
    let code := PrefixCode.ofLengths
      ((List.range 19).map fun symbol => (told.lookup symbol).getD 0)
    if code.isComplete || code.isEmpty then .told code rest else .faulty .lengthCode

/-- The two codes of a block that tells them. -/
def toldCodes (bits : Bits) : Told (PrefixCode × PrefixCode) :=
  match bits.take? 14 with
  | none => .unfinished
  | some (counts, bits) =>
    let literalCount := counts % 32 + 257
    let distanceCount := counts / 32 % 32 + 1
    if 286 < literalCount || 30 < distanceCount then .faulty .tooManySymbols
    else
      match lengthsCode (counts / 1024 + 4) bits with
      | .unfinished => .unfinished
      | .faulty fault => .faulty fault
      | .told code bits =>
        let count := literalCount + distanceCount
        match lengthsFrom code count (count + 1) [] bits with
        | .unfinished => .unfinished
        | .faulty fault => .faulty fault
        | .told lengths rest =>
          let literals := PrefixCode.ofLengths (lengths.take literalCount)
          let distances := PrefixCode.ofLengths (lengths.drop literalCount)
          if lengths[256]?.getD 0 == 0 then .faulty .noEnd
          else if !isUsable literals then .faulty .literalCode
          else if !isUsable distances then .faulty .distanceCode
          else .told (literals, distances) rest

/-! ### Blocks -/

/-- A block, given the two bits that tell its kind. -/
def block (kind : Nat) (written : Written) (bits : Bits) : Unpacking :=
  match kind with
  | 0 => storedBlock written bits
  | 1 => symbolBlock fixedLiterals fixedDistances written bits
  | 2 =>
    match toldCodes bits with
    | .told (literals, distances) rest => symbolBlock literals distances written rest
    | .unfinished => .unfinished written
    | .faulty fault => .faulty fault
  | _ => .faulty .blockType

/-- Blocks up to the one that is marked as the last one. There are at most so many. -/
def blocks : (most : Nat) → Written → Bits → Unpacking
  | 0, written, _ => .unfinished written
  | most + 1, written, bits =>
    match bits.take? 3 with
    | none => .unfinished written
    | some (head, rest) =>
      let unpacking := block (head / 2) written rest
      if head % 2 == 1 then unpacking else unpacking.andThen (blocks most)

/-- Unpacks deflated bytes. -/
def inflate (bits : Bits) : Unpacking := blocks (bits.length + 1) #[] bits

end ClientModel.Compression
