/-
This file holds characters in the cells of a grid, as the sets do in which a character is two
bytes: one byte tells the row and the other the column. Many sets share their cells, or add some
to those of another, so that a grid is made by writing texts into cells.
-/

import ClientModel.Text.Reading

namespace ClientModel.Text

/-- Characters in rows of equal length; the replacement character stands where there is none. -/
structure Grid where
  /-- The number of columns. -/
  width : Nat
  /-- The cells, row by row. -/
  cells : Array Char
  deriving DecidableEq, Repr

namespace Grid

/-- A grid without characters. -/
def empty (height width : Nat) : Grid := ⟨width, Array.replicate (height * width) replacement⟩

/-- The character of a cell, if there is one. -/
def character? (grid : Grid) (row column : Nat) : Option Char :=
  if column < grid.width then
    grid.cells[row * grid.width + column]?.filter (· != replacement)
  else none

/-- Writes a character into a cell. -/
def put (grid : Grid) (row column : Nat) (character : Char) : Grid :=
  ⟨grid.width, grid.cells.setIfInBounds (row * grid.width + column) character⟩

/-- Writes characters into cells, one into each. -/
def putEach (grid : Grid) (places : List (Nat × Nat)) (characters : List Char) : Grid :=
  (places.zip characters).foldl (fun filled (place, character) =>
    filled.put place.1 place.2 character) grid

/-- Writes a text into a row from some column on. -/
def write (grid : Grid) (row column : Nat) (text : String) : Grid :=
  let characters := text.toList
  let places := (List.range characters.length).map fun offset => (row, column + offset)
  grid.putEach places characters

/-- Writes texts into rows that follow each other, each from the same column on. -/
def writeRows (grid : Grid) (row column : Nat) (rows : List String) : Grid :=
  rows.zipIdx.foldl (fun filled (text, offset) => filled.write (row + offset) column text) grid

/-- Writes texts, each into a row from some column on. -/
def writeRuns (grid : Grid) (runs : List (Nat × Nat × String)) : Grid :=
  runs.foldl (fun filled (row, column, text) => filled.write row column text) grid

/-- The cells of some rows and columns, row by row. -/
def places (row height column width : Nat) : List (Nat × Nat) :=
  (List.range' row height).flatMap fun own => (List.range' column width).map fun place =>
    (own, place)

/-- A grid that takes two rows as one. -/
def doubled (grid : Grid) : Grid := ⟨2 * grid.width, grid.cells⟩

/-- The characters of a range of codes that are in no cell, in the order of their codes. -/
def lacking (grid : Grid) (low count : Nat) : List Char :=
  let marks := grid.cells.foldl (fun marks character => marks.setIfInBounds character.toNat true)
    (Array.replicate (low + count) false)
  ((List.range' low count).filter fun code => marks[code]? == some false).map Char.ofNat

/-! ### What a grid holds -/

/-- An empty grid has no character anywhere. -/
theorem character?_empty (height width row column : Nat) :
    (empty height width).character? row column = none := by
  by_cases held : row * width + column < height * width <;>
    simp [character?, empty, held]

/-- A cell beyond the columns has no character. -/
theorem character?_of_width_le {grid : Grid} {column : Nat} (beyond : grid.width ≤ column)
    (row : Nat) : grid.character? row column = none := by
  rw [character?, if_neg (Nat.not_lt.mpr beyond)]

/-- Writing changes the characters of cells, not their number. -/
theorem size_cells_put (grid : Grid) (row column : Nat) (character : Char) :
    (grid.put row column character).cells.size = grid.cells.size := by
  simp [put]

/-- What was written into a cell of the grid is its character. -/
theorem character?_put_self {grid : Grid} {row column : Nat} {character : Char}
    (inside : column < grid.width) (held : row * grid.width + column < grid.cells.size)
    (is_character : character ≠ replacement) :
    (grid.put row column character).character? row column = some character := by
  simp [character?, put, inside, held, is_character]

end Grid

end ClientModel.Text
