/-
This file follows pointers inside a document. A pointer is a list of segments behind `#/`: keys of
maps, in which `~1` stands for a slash and `~0` for a tilde, and positions in lists, which may be
counted from the end. A value that is nothing but a reference is replaced by what it points to,
again and again, up to a bound that no honest document reaches.
-/

import ClientModel.Document.Error
import ClientModel.Text.Numeral
import ClientModel.Text.Split

namespace ClientModel.Pointer

/-! ### Segments -/

/-- Replaces a tilde and a digit by the character they stand for. -/
def replaceEscape (digit replacement : Char) : List Char → List Char
  | [] => []
  | [character] => [character]
  | first :: second :: rest =>
    if first == '~' && second == digit then replacement :: replaceEscape digit replacement rest
    else first :: replaceEscape digit replacement (second :: rest)

theorem replaceEscape_cons_cons (digit replacement first second : Char) (rest : List Char) :
    replaceEscape digit replacement (first :: second :: rest) =
      if first == '~' && second == digit then replacement :: replaceEscape digit replacement rest
      else first :: replaceEscape digit replacement (second :: rest) := rfl

/-- The key that a segment writes: the slash first, so that `~01` is a tilde and a one. -/
def unescape (segment : List Char) : List Char :=
  replaceEscape '0' '~' (replaceEscape '1' '/' segment)

/-- The segments of a pointer, unescaped; nothing for a text that does not start with `#/`. -/
def segments? (pointer : String) : Option (List String) :=
  match pointer.toList with
  | '#' :: '/' :: rest =>
    some ((Text.splitOn '/' rest).map fun segment => String.ofList (unescape segment))
  | _ => none

/-! ### Steps -/

/-- The item of a list at a position; a negative one counts from the end. -/
def itemAt? (items : List Value) (position : Int) : Option Value :=
  let place := if position < 0 then position + items.length else position
  if place < 0 then none else items[place.toNat]?

/-- One segment of a pointer. -/
def enter (pointer : String) (current : Value) (segment : String) : Except DocumentError Value :=
  match current.opened with
  | .map entries =>
    match Entries.get? segment entries with
    | some item => .ok item
    | none => .error (.missingKey pointer segment)
  | .list items =>
    match (Text.readInteger? segment.toList).bind (itemAt? items) with
    | some item => .ok item
    | none => .error (.invalidIndex pointer segment)
  | other => .error (.notNavigable pointer other.kindName)

/-- The value that a pointer leads to. -/
def resolve (pointer : String) (root : Value) : Except DocumentError Value :=
  match segments? pointer with
  | none => .error (.externalReference pointer)
  | some segments => segments.foldlM (enter pointer) root

/-! ### Chains of references -/

/-- The longest chain of references that is followed. -/
def longestChain : Nat := 32

/-- The pointer of a value that is a reference. -/
def reference? (value : Value) : Option String :=
  (value.entriesOrEmpty.get "$ref").string?

/-- Follows references. `hops` is how many more may be followed, `seen` those that were. -/
def follow (root : Value) : (hops : Nat) → (seen : List String) → Value →
    Except DocumentError Value
  | 0, seen, value =>
    match reference? value with
    | none => .ok value
    | some pointer => .error (.circular (seen ++ [pointer]))
  | hops + 1, seen, value =>
    match reference? value with
    | none => .ok value
    | some pointer =>
      if seen.contains pointer then .error (.circular (seen ++ [pointer]))
      else do
        let next ← resolve pointer root
        follow root hops (seen ++ [pointer]) next

theorem follow_zero_eq (root : Value) (seen : List String) (value : Value) :
    follow root 0 seen value =
      match reference? value with
      | none => .ok value
      | some pointer => .error (.circular (seen ++ [pointer])) := rfl

theorem follow_succ_eq (root : Value) (hops : Nat) (seen : List String) (value : Value) :
    follow root (hops + 1) seen value =
      match reference? value with
      | none => .ok value
      | some pointer =>
        if seen.contains pointer then .error (.circular (seen ++ [pointer]))
        else (resolve pointer root).bind (follow root hops (seen ++ [pointer])) := rfl

/-- The value at the end of a chain of references. -/
def dereference (root value : Value) : Except DocumentError Value :=
  follow root longestChain [] value

end ClientModel.Pointer
