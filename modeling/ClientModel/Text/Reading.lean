/-
This file says what comes of reading bytes as text: a character for each sequence of bytes that is
one, and nothing for each that is none. Read strictly, one sequence that is no character spoils the
text; read loosely, another character stands in for it.
-/

namespace ClientModel.Text

/-- What stands for bytes that are no text. -/
def replacement : Char := '\uFFFD'

/-- What comes of reading bytes: characters, and nothing for sequences that are none. -/
abbrev Reading := List (Option Char)

namespace Reading

/-- The text of a reading, with the replacement character for whatever is no character. -/
def loosely (reading : Reading) : String :=
  String.ofList (reading.map fun character => character.getD replacement)

/-- The text of a reading in which every sequence is a character. -/
def strictly? (reading : Reading) : Option String :=
  (reading.mapM id).map String.ofList

/-- Loosely, each sequence is one character. -/
theorem length_loosely (reading : Reading) : reading.loosely.length = reading.length := by
  simp [loosely]

/-- A reading of characters only is the text of these characters. -/
theorem loosely_map_some (characters : List Char) :
    loosely (characters.map some) = String.ofList characters := by
  simp [loosely, Function.comp_def]

/-- A reading of characters only is good enough to be read strictly. -/
theorem strictly?_map_some (characters : List Char) :
    strictly? (characters.map some) = some (String.ofList characters) := by
  have whole : (characters.map some).mapM id = some characters := by
    induction characters with
    | nil => rfl
    | cons character rest rest_whole => simp [rest_whole]
  rw [strictly?, whole]
  rfl

/-! ### Reading piece by piece -/

/-- Reads bytes piece by piece. `pieceAt` says what comes of the piece that a byte starts and how
many bytes it takes, `skip` is the number of bytes that still belong to the piece before. -/
def byPieces (pieceAt : UInt8 → List UInt8 → Reading × Nat) : (skip : Nat) → List UInt8 → Reading
  | _, [] => []
  | skip + 1, _ :: rest => byPieces pieceAt skip rest
  | 0, byte :: rest =>
    let (characters, length) := pieceAt byte rest
    characters ++ byPieces pieceAt (length - 1) rest

/-- Reads bytes piece by piece, where what a piece means hangs on the pieces before it. `pieceAt`
says what comes of a piece, how many bytes it takes and what it leaves for the next one. -/
def byPiecesFrom {State : Type} (pieceAt : State → UInt8 → List UInt8 → Reading × Nat × State) :
    State → (skip : Nat) → List UInt8 → Reading
  | _, _, [] => []
  | state, skip + 1, _ :: rest => byPiecesFrom pieceAt state skip rest
  | state, 0, byte :: rest =>
    let (characters, length, next) := pieceAt state byte rest
    characters ++ byPiecesFrom pieceAt next (length - 1) rest

/-- Where no piece leaves anything, each is read as by itself. -/
theorem byPiecesFrom_unit (pieceAt : UInt8 → List UInt8 → Reading × Nat) (skip : Nat)
    (bytes : List UInt8) :
    byPiecesFrom (fun (_ : Unit) byte rest => ((pieceAt byte rest).1, (pieceAt byte rest).2, ()))
      () skip bytes = byPieces pieceAt skip bytes := by
  induction bytes generalizing skip with
  | nil => cases skip <;> rfl
  | cons byte bytes read => cases skip <;> simp [byPieces, byPiecesFrom, read]

/-- Bytes that belong to the piece before are passed over. -/
theorem byPieces_append (pieceAt : UInt8 → List UInt8 → Reading × Nat) (bytes rest : List UInt8) :
    byPieces pieceAt bytes.length (bytes ++ rest) = byPieces pieceAt 0 rest := by
  induction bytes with
  | nil => rfl
  | cons byte bytes passed => simpa [byPieces] using passed

end Reading

end ClientModel.Text
