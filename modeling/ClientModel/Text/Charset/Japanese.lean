/-
This file reads the Japanese character sets: those that move the rows of characters between the
bytes of kana of half width, and those that mark the rarer characters by a byte in front. Each has
a later form with the characters of JIS X 0213, of which there is a first edition and a revised
one.
-/

import ClientModel.Text.Charset.Grid.Japanese
import ClientModel.Text.Charset.Grid.JapaneseWide
import ClientModel.Text.Charset.Paired

namespace ClientModel.Text.Japanese

/-! ### Characters -/

/-- The characters used most, in rows from 0 on. -/
def common (height : Nat) : Grid := (Grid.empty height 94).writeRows 0 0 Grid.japanese

/-- The rarer characters. -/
def rare : Grid := (Grid.empty 94 94).writeRows 0 0 Grid.japaneseRare

/-- Kana of half width, as characters by themselves. -/
def kana : Nat × Nat × Nat := (0xA1, 0xDF, 0xFF61)

/-- The characters used most with those that were added: signs, selected and further characters,
characters for private use between them, and six that are others of the same form. -/
def extended : Grid :=
  ((common 120).write 12 0 Grid.japaneseSigns
    |>.writeRows 88 0 Grid.japaneseSelected
    |>.putEach (Grid.places 94 20 0 94) ((List.range' 0xE000 1880).map Char.ofNat)
    |>.writeRows 114 0 Grid.japaneseAdded)
    |>.write 0 32 "～∥" |>.write 0 60 "－" |>.write 0 80 "￠￡" |>.write 1 43 "￢"

/-! ### Later characters -/

/-- The cells of the first plane that the first edition reserves. -/
def reserved : List (Nat × Nat) :=
  [(13, 0), (14, 93), (46, 51), (46, 93), (83, 6), (93, 89), (93, 90), (93, 91), (93, 92), (93, 93)]

/-- The first plane of the later characters, in rows from 0 on. -/
def wide (revised : Bool) (height : Nat) : Grid :=
  let all := ((common height).writeRuns Grid.japaneseWider).writeRows 84 0 Grid.japaneseWiderRows
    |>.write 1 17 "~"
  if revised then all else all.putEach reserved (List.replicate reserved.length replacement)

/-- The cells of the first plane with more than one character: kana with a mark, letters with an
accent, and tones. -/
def sequences : List ((Nat × Nat) × Reading) :=
  let runs : List (Nat × Nat × List String) := [
    (3, 86, ["か\u309A", "き\u309A", "く\u309A", "け\u309A", "こ\u309A"]),
    (4, 86, ["カ\u309A", "キ\u309A", "ク\u309A", "ケ\u309A", "コ\u309A", "セ\u309A", "ツ\u309A",
      "ト\u309A"]),
    (5, 87, ["ㇷ\u309A"]),
    (10, 35, ["æ\u0300"]),
    (10, 39, ["ɔ\u0300", "ɔ\u0301", "ʌ\u0300", "ʌ\u0301", "ə\u0300", "ə\u0301", "ɚ\u0300",
      "ɚ\u0301"]),
    (10, 68, ["˩˥", "˥˩"])]
  runs.flatMap fun (row, column, texts) =>
    texts.zipIdx.map fun (text, offset) => ((row, column + offset), text.toList.map some)

/-- What comes of the cells of the first plane that do not hold one character. -/
def wideBesides (revised : Bool) : List ((Nat × Nat) × Reading) :=
  if revised then sequences else sequences ++ reserved.map fun cell => (cell, [none])

/-- The rows of the second plane as they follow each other. The first edition has another form of
one character. -/
def secondRows (revised : Bool) : List String :=
  if revised then Grid.japaneseSecond
  else Grid.japaneseSecond.map fun row =>
    String.ofList (row.toList.map fun character =>
      if character == '鬜' then '鬝' else character)

/-- The numbers of the rows of the second plane. -/
def secondNumbers : List Nat := [0, 7, 2, 3, 4, 11, 12, 13, 14] ++ List.range' 77 17

/-- The second plane, each row at its number, in a grid that holds others. -/
def withSecond (revised : Bool) (grid : Grid) : Grid :=
  grid.writeRuns <| (secondNumbers.zip (secondRows revised)).map fun (number, row) =>
    (number, 0, row)

/-- The place of a cell in a grid that takes two rows as one. -/
def doubledCell (cell : Nat × Nat) : Nat × Nat := (cell.1 / 2, cell.1 % 2 * 94 + cell.2)

/-! ### Rows moved between kana -/

/-- The set that has two rows of characters for each first byte. -/
def shifted : Paired where
  singles := [Paired.ascii, kana]
  firsts := [(0x81, 0x9F), (0xE0, 0xFC)]
  seconds := [(0x40, 0x7E), (0x80, 0xFC)]
  grid := (common 94).doubled

/-- The same with the characters that were added, some of them as single bytes. -/
def shiftedExtended : Paired where
  singles := [Paired.ascii, (0x80, 0x80, 0x80), (0xA0, 0xA0, 0xF8F0), kana, (0xFD, 0xFF, 0xF8F1)]
  firsts := shifted.firsts
  seconds := shifted.seconds
  grid := extended.doubled

/-- The set with the later characters, the second plane after the first. Of the signs of ASCII, two
are Japanese, and stand in cells themselves. -/
def shiftedWide (revised : Bool) : Paired where
  singles := [(0x5C, 0x5C, 0xA5), (0x7E, 0x7E, 0x203E), Paired.ascii, kana]
  firsts := shifted.firsts
  seconds := shifted.seconds
  grid := ((wide revised 120).write 0 31 "\\" |>.writeRows 94 0 (secondRows revised)).doubled
  besides := (wideBesides revised).map fun (cell, reading) => (doubledCell cell, reading)

/-! ### Rows marked by a byte in front -/

/-- The set in which all bytes of pairs are beyond ASCII, and a row for kana stands before the
others. -/
def marked : Paired where
  singles := [Paired.ascii]
  firsts := [(0x8E, 0x8E), (0xA1, 0xFE)]
  seconds := [(0xA1, 0xFE)]
  grid := ((Grid.empty 95 94).writeRows 1 0 Grid.japanese).putEach (Grid.places 0 1 0 63)
    ((List.range' 0xFF61 63).map Char.ofNat)

/-- The same with the later characters. -/
def markedWide (revised : Bool) : Paired where
  singles := marked.singles
  firsts := marked.firsts
  seconds := marked.seconds
  grid := ⟨94, marked.grid.cells.extract 0 94 ++ ((wide revised 94).write 1 17 "～").cells⟩
  besides := (wideBesides revised).map fun (cell, reading) => ((cell.1 + 1, cell.2), reading)

/-- Rarer characters in bytes beyond ASCII. -/
def afterMark (grid : Grid) : Paired := ⟨[], [(0xA1, 0xFE)], [(0xA1, 0xFE)], grid, []⟩

/-- What comes of the bytes from some byte on, where one byte marks the rarer characters. -/
def markedPieceAt (usual rarer : Paired) (byte : UInt8) (rest : List UInt8) : Reading × Nat :=
  if byte == 0x8F then
    match rest with
    | second :: third :: _ =>
      match rarer.pair? second.toNat third.toNat with
      | some characters => (characters, 3)
      | none => ([none], 1)
    | _ => ([none], 1 + rest.length)
  else usual.pieceAt byte rest

/-- Reads bytes in which one marks the rarer characters. -/
def readMarked (bytes : List UInt8) : Reading :=
  Reading.byPieces (markedPieceAt marked (afterMark rare)) 0 bytes

/-- Reads the same with the later characters; those of the second plane are marked. -/
def readMarkedWide (revised : Bool) (bytes : List UInt8) : Reading :=
  let second := afterMark (withSecond revised rare)
  Reading.byPieces (markedPieceAt (markedWide revised) second) 0 bytes

end ClientModel.Text.Japanese
