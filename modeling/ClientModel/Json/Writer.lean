/-
This file writes values as JSON text, on one line or indented. Not every value has a JSON text:
dates, times, byte strings, sets and overlong integers have none, neither has a map with a key that
is one of these, and neither has what is a part of itself. `unwritable?` finds the first such part
in the order of writing.
-/

import ClientModel.Binary64.Shortest
import ClientModel.Text.Hex
import ClientModel.Text.Numeral
import ClientModel.Value.Basic

namespace ClientModel.Json

/-! ### Values without a JSON text -/

/-- The first part of a value that has no JSON text, by its kind. -/
inductive Unwritable where
  | item (kind : String)
  | key (kind : String)
  /-- An integer of too many digits. -/
  | longInteger
  /-- A list or a map inside itself. -/
  | circular
  deriving DecidableEq, Repr

/-- The text of the complaint. -/
def Unwritable.message : Unwritable → String
  | .item kind => s!"Object of type {kind} is not JSON serializable"
  | .key kind => s!"keys must be str, int, float, bool or None, not {kind}"
  | .longInteger => Text.unwrittenIntegerMessage
  | .circular => "Circular reference detected"

/-- Whether a scalar is of a kind that has a JSON text. -/
def isWritable : Scalar → Bool
  | .date _ | .timestamp _ | .binary _ => false
  | _ => true

/-- Whether a scalar is an integer of too many digits. -/
def isLongInteger : Scalar → Bool
  | .int value => Text.isLongInteger value
  | _ => false

/-- What keeps a scalar from having a JSON text, where `misfit` stands for its kind. -/
def unwritableScalar? (misfit : String → Unwritable) (content : Scalar) : Option Unwritable :=
  if isLongInteger content then some .longInteger
  else if isWritable content then none
  else some (misfit content.kindName)

mutual

/-- The first part, in the order of writing, that has no JSON text. -/
def unwritable? : Value → Option Unwritable
  | .scalar content => unwritableScalar? .item content
  | .list items => unwritableItem? items
  | .map entries => unwritableEntry? entries
  | .set _ => some (.item "set")
  | .pair first second =>
    match unwritable? first with
    | some found => some found
    | none => unwritable? second
  | .knot _ body => unwritable? body
  | .again _ _ => some .circular

/-- `unwritable?` of a list. -/
def unwritableItem? : List Value → Option Unwritable
  | [] => none
  | item :: rest =>
    match unwritable? item with
    | some found => some found
    | none => unwritableItem? rest

/-- `unwritable?` of a map: a key comes before its item. -/
def unwritableEntry? : List (Scalar × Value) → Option Unwritable
  | [] => none
  | (key, item) :: rest =>
    match unwritableScalar? .key key with
    | some found => some found
    | none =>
      match unwritable? item with
      | some found => some found
      | none => unwritableEntry? rest

end

/-! ### Text between quotes -/

/-- A unit of sixteen bits as an escape. -/
def escapedUnit (unit : Nat) : List Char :=
  '\\' :: 'u' :: Text.hexDigits 4 unit

/-- A code point as one escape or, above the first plane, as two. -/
def escapedCode (code : Nat) : List Char :=
  if code < 0x10000 then escapedUnit code
  else
    let above := code - 0x10000
    escapedUnit (0xD800 + above / 0x400) ++ escapedUnit (0xDC00 + above % 0x400)

/-- One character between quotes. Where only ASCII may be written, everything that is not a
printable ASCII character is escaped; else only control characters are. -/
def writtenCharacter (asciiOnly : Bool) (character : Char) : List Char :=
  if character == '"' then ['\\', '"']
  else if character == '\\' then ['\\', '\\']
  else if character == '\n' then ['\\', 'n']
  else if character == '\r' then ['\\', 'r']
  else if character == '\t' then ['\\', 't']
  else if character == '\x08' then ['\\', 'b']
  else if character == '\x0C' then ['\\', 'f']
  else if character.toNat < 0x20 then escapedCode character.toNat
  else if asciiOnly && 0x7F ≤ character.toNat then escapedCode character.toNat
  else [character]

/-- A text between quotes. -/
def writtenText (asciiOnly : Bool) (characters : List Char) : List Char :=
  '"' :: characters.flatMap (writtenCharacter asciiOnly) ++ ['"']

/-! ### Values -/

/-- How JSON text is laid out. -/
structure Style where
  /-- What stands between items on one line. -/
  itemSeparator : String
  /-- What stands between a key and its item. -/
  keySeparator : String
  /-- Whether every other character is escaped. -/
  asciiOnly : Bool
  /-- The width of one step of indentation; nothing for one line. -/
  indentation : Option Nat

/-- Documentation shows values without any space. -/
def documentationStyle : Style := ⟨",", ":", false, none⟩

/-- Type texts show literals in ASCII, with a space after each mark. -/
def literalStyle : Style := ⟨", ", ": ", true, none⟩

/-- Data is written over several lines, with two spaces for each level. -/
def dataStyle : Style := ⟨",", ": ", false, some 2⟩

/-- Configuration is data in ASCII alone. -/
def configurationStyle : Style := ⟨",", ": ", true, some 2⟩

/-- The start of a line at a level: a line break and the indentation, or nothing on one line. -/
def Style.lineStart (style : Style) (level : Nat) : List Char :=
  match style.indentation with
  | none => []
  | some width => '\n' :: List.replicate (width * level) ' '

/-- The parts of a list or map between its brackets. -/
def Style.bracketed (style : Style) (level : Nat) (opening closing : Char)
    (parts : List (List Char)) : List Char :=
  match parts with
  | [] => [opening, closing]
  | first :: rest =>
    let start := style.lineStart (level + 1)
    let following := rest.flatMap fun part => style.itemSeparator.toList ++ start ++ part
    opening :: start ++ first ++ following ++ style.lineStart level ++ [closing]

/-- A scalar as JSON text. One that has none is written as its text. -/
def writtenScalar (asciiOnly : Bool) : Scalar → List Char
  | .null => "null".toList
  | .bool value => (if value then "true" else "false").toList
  | .int value => (toString value).toList
  | .float value => value.jsonText.toList
  | .string value => writtenText asciiOnly value.toList
  | .date value => writtenText asciiOnly value.text.toList
  | .timestamp value => writtenText asciiOnly (value.text "T").toList
  | .binary bytes => writtenText asciiOnly (bytes.map fun byte => Char.ofNat byte.toNat)

/-- A key as JSON text: a text as it is, any other scalar as its own JSON text between quotes. -/
def writtenKey (asciiOnly : Bool) : Scalar → List Char
  | .string value => writtenText asciiOnly value.toList
  | .date value => writtenScalar asciiOnly (.date value)
  | .timestamp value => writtenScalar asciiOnly (.timestamp value)
  | .binary bytes => writtenScalar asciiOnly (.binary bytes)
  | other => writtenText asciiOnly (writtenScalar asciiOnly other)

mutual

/-- A value at a level of indentation. -/
def written (style : Style) (level : Nat) : Value → List Char
  | .scalar content => writtenScalar style.asciiOnly content
  | .list items => style.bracketed level '[' ']' (writtenItems style (level + 1) items)
  | .map entries => style.bracketed level '{' '}' (writtenEntries style (level + 1) entries)
  | .set members =>
    style.bracketed level '[' ']' (members.map (writtenScalar style.asciiOnly))
  | .pair first second =>
    style.bracketed level '[' ']'
      [written style (level + 1) first, written style (level + 1) second]
  | .knot _ body => written style level body
  | .again _ _ => "null".toList

/-- The items of a list. -/
def writtenItems (style : Style) (level : Nat) : List Value → List (List Char)
  | [] => []
  | item :: rest => written style level item :: writtenItems style level rest

/-- The entries of a map. -/
def writtenEntries (style : Style) (level : Nat) : List (Scalar × Value) → List (List Char)
  | [] => []
  | (key, item) :: rest =>
    (writtenKey style.asciiOnly key ++ style.keySeparator.toList ++ written style level item) ::
      writtenEntries style level rest

end

/-- A value as JSON text. -/
def write (style : Style) (value : Value) : String :=
  String.ofList (written style 0 value)

/-- A value as JSON text, where it has one. -/
def write? (style : Style) (value : Value) : Except Unwritable String :=
  match unwritable? value with
  | some found => .error found
  | none => .ok (write style value)

end ClientModel.Json
