/-
This file brings the ends of lines into one form. A file may end its lines by a line feed, by a
carriage return or by both; a text that was read from it has line feeds alone.
-/

namespace ClientModel.Text

/-- The text with a line feed at the end of every line. -/
def unifyLineEnds : List Char → List Char
  | [] => []
  | '\r' :: '\n' :: rest => '\n' :: unifyLineEnds rest
  | '\r' :: rest => '\n' :: unifyLineEnds rest
  | character :: rest => character :: unifyLineEnds rest

/-- `unifyLineEnds` on strings. -/
def withUnifiedLineEnds (text : String) : String :=
  if text.toList.contains '\r' then String.ofList (unifyLineEnds text.toList) else text

/-- A text without carriage returns stays as it is. -/
theorem withUnifiedLineEnds_of_not_mem (text : String) (absent : '\r' ∉ text.toList) :
    withUnifiedLineEnds text = text := by
  simp [withUnifiedLineEnds, absent]

end ClientModel.Text
