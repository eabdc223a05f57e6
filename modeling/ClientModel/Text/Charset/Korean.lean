/-
This file reads the Korean character sets: the one that has the syllables used most, and writes
others letter by letter, and the two that have all syllables, as rows of their own or as the
numbers of their letters.
-/

import ClientModel.Text.Charset.Grid.Korean
import ClientModel.Text.Charset.Paired

namespace ClientModel.Text.Korean

/-! ### All syllables -/

/-- The set in which the syllables that have no place elsewhere stand before and beside the other
characters. -/
def unified : Paired where
  singles := [Paired.ascii]
  firsts := [(0x81, 0xFE)]
  seconds := [(0x41, 0x5A), (0x61, 0x7A), (0x81, 0xFE)]
  grid :=
    let common := (Grid.empty 126 178).writeRows 32 84 Grid.korean
    common.putEach (Grid.places 0 32 0 178 ++ Grid.places 32 38 0 84)
      (common.lacking 0xAC00 11172)

/-! ### The syllables used most -/

/-- The set in which all bytes of pairs are beyond ASCII. -/
def common : Paired where
  singles := [Paired.ascii]
  firsts := [(0xA1, 0xFE)]
  seconds := [(0xA1, 0xFE)]
  grid := (Grid.empty 94 94).writeRows 0 0 Grid.korean

/-- The consonants that begin a syllable, in their order. -/
def initials : List Char := "ㄱㄲㄴㄷㄸㄹㅁㅂㅃㅅㅆㅇㅈㅉㅊㅋㅌㅍㅎ".toList

/-- The consonants that end a syllable, in their order. -/
def finals : List Char := "ㄱㄲㄳㄴㄵㄶㄷㄹㄺㄻㄼㄽㄾㄿㅀㅁㅂㅄㅅㅆㅇㅈㅊㅋㅌㅍㅎ".toList

/-- The consonant that a byte stands for. -/
def consonant (byte : UInt8) : Char := Char.ofNat (0x3131 + byte.toNat - 0xA1)

/-- The number of the consonant that a byte puts at the end of a syllable; 0 is none. -/
def finalNumber? (byte : UInt8) : Option Nat :=
  if byte == 0xD4 then some 0 else (finals.idxOf? (consonant byte)).map (· + 1)

/-- The syllable of three letters: a consonant, a vowel and what ends it. -/
def syllable? (first second third : UInt8) : Option Char := do
  let initial ← initials.idxOf? (consonant first)
  let vowel ← placeIn? [(0xBF, 0xD3)] second.toNat
  let final ← finalNumber? third
  some (Char.ofNat (0xAC00 + (initial * 21 + vowel) * 28 + final))

/-- What comes of the bytes from some byte on. Two bytes that stand for no letter open a syllable
that is written letter by letter, in eight bytes. -/
def pieceAt (byte : UInt8) (rest : List UInt8) : Reading × Nat :=
  if byte == 0xA4 && rest.head? == some 0xD4 then
    match rest with
    | _ :: second :: initial :: third :: vowel :: fourth :: final :: _ =>
      if second == 0xA4 && third == 0xA4 && fourth == 0xA4 then
        match syllable? initial vowel final with
        | some syllable => ([some syllable], 8)
        | none => ([none], 1)
      else ([none], 1)
    | _ => ([none], 1 + rest.length)
  else common.pieceAt byte rest

/-- Reads bytes of the set with the syllables used most. -/
def read (bytes : List UInt8) : Reading := Reading.byPieces pieceAt 0 bytes

/-! ### Syllables by the numbers of their letters -/

/-- The characters that are no syllables: two rows for each first byte, and no letters. -/
def besides : Paired where
  singles := [Paired.ascii]
  firsts := [(0xD9, 0xDE), (0xE0, 0xF9)]
  seconds := [(0x31, 0x7E), (0x91, 0xFE)]
  grid :=
    let signs := ((Grid.empty 64 94).writeRows 0 0 (Grid.korean.take 12)).putEach
      (Grid.places 3 1 0 51) (List.replicate 51 replacement)
    (signs.writeRows 12 0 (Grid.korean.drop 41)).doubled

/-- The number of a letter among five bits; 0 is no letter, which has a number of its own. -/
def letterNumber? (none : Nat) (ranges : List (Nat × Nat)) (bits : Nat) : Option Nat :=
  if bits == none then some 0 else (placeIn? ranges bits).map (· + 1)

/-- The character of a consonant, a vowel and what ends a syllable, by their numbers: a syllable,
or a letter alone. -/
def lettersAt? (initial vowel final : Nat) : Option Char :=
  match initial, vowel, final with
  | 0, 0, 0 => some '\u3000'
  | 0, 0, final + 1 => finals[final]?
  | 0, vowel + 1, 0 => some (Char.ofNat (0x314F + vowel))
  | 0, _, _ => none
  | initial + 1, 0, 0 => initials[initial]?
  | _, 0, _ => none
  | initial + 1, vowel + 1, final =>
    some (Char.ofNat (0xAC00 + (initial * 21 + vowel) * 28 + final))

/-- The character of two bytes that hold three numbers of five bits. -/
def numbered? (first second : Nat) : Option Char := do
  let initial ← letterNumber? 1 [(2, 20)] (first / 4 % 32)
  let vowel ← letterNumber? 2 [(3, 7), (10, 15), (18, 23), (26, 29)]
    (first % 4 * 8 + second / 32)
  let final ← letterNumber? 1 [(2, 17), (19, 29)] (second % 32)
  lettersAt? initial vowel final

/-- What comes of the bytes from some byte on. -/
def numberedPieceAt (byte : UInt8) (rest : List UInt8) : Reading × Nat :=
  if 0x80 ≤ byte && byte < 0xD8 then
    match rest.head?.bind fun second => numbered? byte.toNat second.toNat with
    | some character => ([some character], 2)
    | none => ([none], 1)
  else besides.pieceAt byte rest

/-- Reads bytes of the set with the numbers of letters. -/
def readNumbered (bytes : List UInt8) : Reading := Reading.byPieces numberedPieceAt 0 bytes

end ClientModel.Text.Korean
