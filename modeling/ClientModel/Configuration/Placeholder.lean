/-
This file fills placeholders in texts from the environment. A placeholder is written as a dollar
sign and a name in braces, where a colon may set a default off from the name. A text is cut into
its pieces, placeholders and single characters, in one pass from left to right; filling replaces
each piece on its own, so nothing that was filled in is looked at again.
-/

import ClientModel.Ordered

namespace ClientModel

/-! ### Environments -/

/-- The variables of the environment. -/
abbrev Environment := List (String × String)

/-- The value of a variable. -/
def Environment.get? (name : String) (environment : Environment) : Option String :=
  Ordered.get? name environment

/-- The value of a variable that is set to something. -/
def Environment.filled? (name : String) (environment : Environment) : Option String :=
  match environment.get? name with
  | some value => if value.isEmpty then none else some value
  | none => none

/-! ### Pieces -/

/-- A placeholder: a name and, where a colon follows it, a default. -/
structure Placeholder where
  name : List Char
  fallback : Option (List Char)
  deriving DecidableEq, Repr

namespace Placeholder

/-- A placeholder as it is written. -/
def written (placeholder : Placeholder) : List Char :=
  match placeholder.fallback with
  | none => '$' :: '{' :: placeholder.name ++ ['}']
  | some fallback => '$' :: '{' :: placeholder.name ++ ':' :: fallback ++ ['}']

/-- What stands for a placeholder: the variable if it is set, else the default if there is one,
else the placeholder itself. -/
def value (environment : Environment) (placeholder : Placeholder) : List Char :=
  match environment.get? (String.ofList placeholder.name) with
  | some value => value.toList
  | none => placeholder.fallback.getD placeholder.written

/-- A character of a name: it ends at a colon or a brace. -/
def isNameCharacter (character : Char) : Bool := character != '}' && character != ':'

/-- The placeholder whose inside a text starts with, after the opening brace. -/
def inside? (text : List Char) : Option Placeholder :=
  let name := text.takeWhile isNameCharacter
  if name.isEmpty then none
  else
    match text.dropWhile isNameCharacter with
    | '}' :: _ => some ⟨name, none⟩
    | ':' :: rest =>
      if rest.contains '}' then some ⟨name, some (rest.takeWhile (· != '}'))⟩ else none
    | _ => none

/-- Where a placeholder is read, a name comes first, and behind it a brace, or a colon and a text
that a brace ends. -/
theorem cases_of_inside? {text : List Char} {placeholder : Placeholder}
    (found : inside? text = some placeholder) :
    text.takeWhile isNameCharacter ≠ [] ∧
      ((∃ rest, text.dropWhile isNameCharacter = '}' :: rest ∧
          placeholder = ⟨text.takeWhile isNameCharacter, none⟩) ∨
        ∃ rest, text.dropWhile isNameCharacter = ':' :: rest ∧ '}' ∈ rest ∧
          placeholder = ⟨text.takeWhile isNameCharacter, some (rest.takeWhile (· != '}'))⟩) := by
  simp only [inside?] at found
  split at found
  · cases found
  · next named =>
    refine ⟨by simpa using named, ?_⟩
    split at found
    · next rest behind =>
      cases found
      exact .inl ⟨rest, behind, rfl⟩
    · next rest behind =>
      split at found
      · next closed =>
        cases found
        exact .inr ⟨rest, behind, List.contains_iff_mem.1 closed, rfl⟩
      · cases found
    · cases found

/-- The placeholder that a text starts with. -/
def at? : List Char → Option Placeholder
  | '$' :: '{' :: rest => inside? rest
  | _ => none

theorem at?_open (rest : List Char) : at? ('$' :: '{' :: rest) = inside? rest := rfl

theorem exists_of_at? {text : List Char} {placeholder : Placeholder}
    (found : at? text = some placeholder) :
    ∃ rest, text = '$' :: '{' :: rest ∧ inside? rest = some placeholder := by
  unfold at? at found
  split at found
  · exact ⟨_, rfl, found⟩
  · cases found

end Placeholder

/-- A piece of a text. -/
inductive Piece where
  | character (content : Char)
  | placeholder (content : Placeholder)
  deriving DecidableEq, Repr

namespace Piece

/-- A piece as it is written. -/
def written : Piece → List Char
  | .character content => [content]
  | .placeholder content => content.written

/-- What stands for a piece. -/
def value (environment : Environment) : Piece → List Char
  | .character content => [content]
  | .placeholder content => content.value environment

end Piece

/-- The pieces of a text. `skip` is the number of characters that still belong to the piece
before. -/
def piecesFrom : (skip : Nat) → List Char → List Piece
  | _, [] => []
  | skip + 1, _ :: rest => piecesFrom skip rest
  | 0, character :: rest =>
    match Placeholder.at? (character :: rest) with
    | some placeholder =>
      .placeholder placeholder :: piecesFrom (placeholder.written.length - 1) rest
    | none => .character character :: piecesFrom 0 rest

theorem piecesFrom_nil (skip : Nat) : piecesFrom skip [] = [] := by
  cases skip <;> rfl

section

variable {character : Char} {rest : List Char}

theorem piecesFrom_of_some {placeholder : Placeholder}
    (found : Placeholder.at? (character :: rest) = some placeholder) :
    piecesFrom 0 (character :: rest) =
      .placeholder placeholder :: piecesFrom (placeholder.written.length - 1) rest := by
  rw [piecesFrom, found]

theorem piecesFrom_of_none (unread : Placeholder.at? (character :: rest) = none) :
    piecesFrom 0 (character :: rest) = .character character :: piecesFrom 0 rest := by
  rw [piecesFrom, unread]

end

/-- The pieces of a text. -/
def pieces (text : String) : List Piece := piecesFrom 0 text.toList

/-- A text with its placeholders filled. -/
def fillPlaceholders (environment : Environment) (text : String) : String :=
  String.ofList ((pieces text).flatMap (Piece.value environment))

end ClientModel
