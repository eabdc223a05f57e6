/-
This file reads the character sets of seven bits in which escape sequences designate what the
bytes after them are: ASCII, other single bytes, or pairs of Japanese, Korean or Chinese. There are
three banks to designate a set for. The first is the one in use, the second is in use between two
control characters, and the third is for one character at a time.
-/

import ClientModel.Text.Charset.Chinese
import ClientModel.Text.Charset.Japanese
import ClientModel.Text.Charset.Korean

namespace ClientModel.Text

/-! ### What can be designated -/

/-- What bytes can be designated to be. -/
inductive Designated where
  | ascii
  /-- ASCII with two Japanese signs. -/
  | roman
  /-- Kana of half width. -/
  | kana
  | japanese
  | japaneseRare
  /-- The first plane of the later Japanese characters, in the first edition or revised. -/
  | japaneseWide (revised : Bool)
  /-- The second plane of them. -/
  | japaneseSecond
  | korean
  | chinese
  /-- The upper half of the first 256 characters. -/
  | latin
  /-- The upper half of a set with Greek letters. -/
  | greek
  deriving DecidableEq, Repr

namespace Designated

/-- The pairs of seven bits of a grid, with what comes of cells that do not hold one character. -/
def narrow (grid : Grid) (besides : List ((Nat × Nat) × Reading)) : Paired :=
  ⟨[], [(0x21, 0x7E)], [(0x21, 0x7E)], grid, besides⟩

/-- The pairs that are designated; none where single bytes are. -/
def pairs? : Designated → Option Paired
  | .japanese => some (narrow (Japanese.common 94) [])
  | .japaneseRare => some (narrow Japanese.rare [])
  | .japaneseWide revised =>
    some (narrow (Japanese.wide revised 94) (Japanese.wideBesides revised))
  | .japaneseSecond => some (narrow (Japanese.withSecond true (.empty 94 94)) [])
  | .korean => some (narrow Korean.common.grid [])
  | .chinese => some (narrow Chinese.simplified.grid [])
  | _ => none

/-- The character that a byte is by itself. -/
def single? (byte : UInt8) : Designated → Option Char
  | .ascii => some (Char.ofNat byte.toNat)
  | .roman =>
    if byte == 0x5C then some '¥' else if byte == 0x7E then some '‾'
    else some (Char.ofNat byte.toNat)
  | .kana =>
    if 0x21 ≤ byte && byte ≤ 0x5F then some (Char.ofNat (0xFF61 + (byte.toNat - 0x21))) else none
  | _ => none

/-- The upper half of the set with Greek letters, the replacement character where it has none. -/
def greekLetters : Array Char :=
  ("\u00a0‘’£��¦§¨©�«¬\u00ad�―°±²³΄΅Ά·ΈΉΊ»Ό½ΎΏΐΑΒΓΔΕΖΗΘΙΚΛΜΝΞΟΠΡ�ΣΤΥΦΧΨΩΪΫάέήίΰαβγδεζηθικλμνξοπρ" ++
    "ςστυφχψωϊϋόύώ�").toList.toArray

/-- The character that a byte of seven bits is in the third bank. -/
def third? (byte : UInt8) : Designated → Option Char
  | .ascii => if byte < 0x80 then some (Char.ofNat byte.toNat) else none
  | .latin => if byte < 0x80 then some (Char.ofNat (byte.toNat + 0x80)) else none
  | .greek =>
    let code := (byte ^^^ 0x80).toNat
    if code < 0xA0 then some (Char.ofNat code)
    else greekLetters[code - 0xA0]?.filter (· != replacement)
  | _ => none

end Designated

/-- A bank: what is designated in it, and the pairs of that. -/
structure Bank where
  part : Designated
  pairs : Option Paired
  deriving DecidableEq, Repr

namespace Bank

/-- The bank in which something is designated. -/
def holding (part : Designated) : Bank := ⟨part, part.pairs?⟩

/-- What comes of the bytes from some byte on, and how many of them it takes. -/
def pieceAt (bank : Bank) (byte : UInt8) (rest : List UInt8) : Reading × Nat :=
  match bank.pairs, rest with
  | none, _ => ([bank.part.single? byte], 1)
  | some _, [] => ([none], 1)
  | some pairs, second :: _ => ((pairs.pair? byte.toNat second.toNat).getD [none], 2)

end Bank

/-! ### Escape sequences -/

/-- A character set with escape sequences. -/
structure Escapes where
  /-- What can be designated, each with whether it has pairs and the byte that names it. -/
  parts : List (Bool × UInt8 × Designated)
  /-- Whether there are control characters for the second bank. -/
  shifts : Bool
  /-- Whether there is a third bank. -/
  thirdBank : Bool
  /-- Whether an escape sequence may have another one in front that tells a revision. -/
  revisions : Bool
  deriving DecidableEq, Repr

namespace Escapes

/-- The banks, and where the reading stands. -/
structure State where
  first : Bank
  second : Bank
  third : Designated
  /-- Whether the second bank is in use. -/
  shifted : Bool
  /-- Whether the bytes are those of an escape sequence that designates nothing. -/
  passing : Bool
  deriving DecidableEq, Repr

/-- In the beginning all is ASCII. -/
def State.start : State := ⟨.holding .ascii, .holding .ascii, .ascii, false, false⟩

/-- The banks with something else in the first one. -/
def State.withFirst (state : State) (part : Designated) : State :=
  { state with first := .holding part }

/-- The banks with something else in the second one. -/
def State.withSecond (state : State) (part : Designated) : State :=
  { state with second := .holding part }

/-- Whether a byte ends an escape sequence. -/
def isFinal (byte : UInt8) : Bool := 0x40 ≤ byte && byte ≤ 0x5A

/-- How far an escape sequence goes. -/
inductive Extent where
  /-- So many bytes are in it. -/
  | bytes (count : Nat)
  /-- The text ends before it does. -/
  | unfinished
  /-- It is too long for one. -/
  | tooLong
  deriving DecidableEq, Repr

/-- How far an escape sequence goes of which `count` bytes stand before these. One with `left` more
bytes is too long. -/
def extent (revisions : Bool) (left count : Nat) (bytes : List UInt8) : Extent :=
  match left with
  | 0 => .tooLong
  | left + 1 =>
    match bytes with
    | [] => .unfinished
    | byte :: rest =>
      if isFinal byte then .bytes (count + 1)
      else if revisions && byte == 0x26 && rest.head? == some 0x40 then
        extent revisions (left - 2) (count + 3) (rest.drop 2)
      else extent revisions left (count + 1) rest
  termination_by left

/-- What a byte at the end of an escape sequence names. -/
def named? (set : Escapes) (pairs : Bool) (byte : UInt8) : Option Designated :=
  if !pairs && byte == 0x42 then some .ascii
  else (set.parts.find? fun (ofPairs, name, _) => ofPairs == pairs && name == byte).map (·.2.2)

/-- The banks after an escape sequence, if it designates something. -/
def designate? (set : Escapes) (state : State) : List UInt8 → Option State
  | [0x24, name] => (set.named? true name).map state.withFirst
  | [0x28, name] => (set.named? false name).map state.withFirst
  | [0x29, name] => (set.named? false name).map state.withSecond
  | [0x2E, name] =>
    if set.thirdBank then (set.named? false name).map fun part => { state with third := part }
    else none
  | [0x24, 0x28, name] => (set.named? true name).map state.withFirst
  | [0x24, 0x29, name] => (set.named? true name).map state.withSecond
  | [_, _, 0x1B, 0x24, 0x42] => if set.revisions then some (state.withFirst .japanese) else none
  | _ => none

/-- The bytes that come second in an escape sequence that designates something. -/
def designators : List UInt8 := [0x24, 0x26, 0x28, 0x29, 0x2E]

/-- What comes of an escape sequence, of which these are the bytes after the first. -/
def escapeAt (set : Escapes) (state : State) (rest : List UInt8) : Reading × Nat × State :=
  match extent set.revisions 15 1 rest with
  | .unfinished => ([none], 1 + rest.length, state)
  | .tooLong => ([none], 1, state)
  | .bytes count =>
    match set.designate? state (rest.take (count - 1)) with
    | some next => ([], count, next)
    | none => ([none], count, state)

/-- What comes of the bytes from some byte on, how many of them it takes, and what then is
designated. -/
def pieceAt (set : Escapes) (state : State) (byte : UInt8) (rest : List UInt8) :
    Reading × Nat × State :=
  let own := some (Char.ofNat byte.toNat)
  if state.passing then ([own], 1, { state with passing := !isFinal byte })
  else if byte == 0x1B then
    match rest with
    | [] => ([none], 1, state)
    | second :: later =>
      if designators.contains second then set.escapeAt state rest
      else if set.thirdBank && second == 0x4E then
        match later with
        | [] => ([none], 2, state)
        | third :: _ => ([state.third.third? third], 3, state)
      else ([own], 1, { state with passing := true })
  else if set.shifts && (byte == 0x0E || byte == 0x0F) then
    ([], 1, { state with shifted := byte == 0x0E })
  else if byte == 0x0A then ([own], 1, { state with shifted := false })
  else if byte < 0x20 then ([own], 1, state)
  else if 0x80 ≤ byte then ([none], 1, state)
  else
    let (characters, length) :=
      (if state.shifted then state.second else state.first).pieceAt byte rest
    (characters, length, state)

/-- How many bytes at the end of a text belong to an escape sequence that goes on. -/
def waiting (set : Escapes) : State → (skip : Nat) → List UInt8 → Nat
  | _, _, [] => 0
  | state, skip + 1, _ :: rest => waiting set state skip rest
  | state, 0, byte :: rest =>
    let (_, length, next) := set.pieceAt state byte rest
    if !state.passing && byte == 0x1B && rest.head?.any designators.contains &&
        extent set.revisions 15 1 rest == .unfinished then 1 + rest.length
    else waiting set next (length - 1) rest

/-- The most bytes that may wait for the end of an escape sequence. -/
def mostWaiting : Nat := 8

/-- Reads bytes. -/
def read (set : Escapes) (bytes : List UInt8) : Reading :=
  Reading.byPiecesFrom set.pieceAt .start 0 bytes

/-! ### The sets -/

/-- The Japanese set. -/
def japanese : Escapes where
  parts := [(true, 0x42, .japanese), (true, 0x40, .japanese), (false, 0x4A, .roman)]
  shifts := false
  thirdBank := false
  revisions := true

/-- The Japanese set with rarer characters. -/
def japaneseRare : Escapes :=
  { japanese with parts := (true, 0x44, .japaneseRare) :: japanese.parts }

/-- The Japanese set with rarer characters and kana of half width. -/
def japaneseExtended : Escapes :=
  { japaneseRare with parts := (false, 0x49, .kana) :: japaneseRare.parts }

/-- The Japanese set with rarer characters and those of other languages. -/
def japaneseMixed : Escapes :=
  { japaneseRare with
    parts := [(true, 0x43, .korean), (true, 0x41, .chinese), (false, 0x41, .latin),
      (false, 0x46, .greek)] ++ japaneseRare.parts
    thirdBank := true }

/-- The Japanese set with the later characters. -/
def japaneseWide (revised : Bool) : Escapes where
  parts := [(true, 0x42, .japanese), (true, if revised then 0x51 else 0x4F, .japaneseWide revised),
    (true, 0x50, .japaneseSecond)]
  shifts := false
  thirdBank := false
  revisions := true

/-- The Korean set. -/
def korean : Escapes where
  parts := [(true, 0x43, .korean)]
  shifts := true
  thirdBank := false
  revisions := false

end Escapes

end ClientModel.Text
