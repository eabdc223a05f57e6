/-
This file defines a place in a YAML text: what is left of the text, and the line and column at
which it starts. Blocks are told apart by columns, so every piece of a YAML text is read by
moving such a place forward.
-/

import ClientModel.Text.Digit
import ClientModel.Text.Hex

namespace ClientModel.Yaml

/-! ### Classes of characters -/

/-- A character that ends a line. -/
def isBreak (character : Char) : Bool :=
  character == '\n' || character == '\r' || character == '\x85' || character == '\u2028' ||
    character == '\u2029'

/-- A space, a tab, or a character that ends a line. -/
def isGap (character : Char) : Bool :=
  character == ' ' || character == '\t' || isBreak character

/-- A letter, a digit, a hyphen or an underscore: the characters of names. -/
def isNameCharacter (character : Char) : Bool :=
  ('a' ≤ character && character ≤ 'z') || ('A' ≤ character && character ≤ 'Z') ||
    Text.isAsciiDigit character || character == '-' || character == '_'

/-- The characters of a tag beside letters and digits. -/
def tagMarks : List Char :=
  ['-', ';', '/', '?', ':', '@', '&', '=', '+', '$', ',', '_', '.', '!', '~', '*', '\x27', '(', ')',
    '[', ']']

/-- A character that may stand in a tag as it is. -/
def isTagCharacter (character : Char) : Bool :=
  isNameCharacter character || tagMarks.contains character

/-- A character that may stand in a YAML text at all. -/
def isAllowed (character : Char) : Bool :=
  let code := character.toNat
  code == 0x09 || code == 0x0A || code == 0x0D || (0x20 ≤ code && code ≤ 0x7E) || code == 0x85 ||
    (0xA0 ≤ code && code ≤ 0xD7FF) || (0xE000 ≤ code && code ≤ 0xFFFD) || 0x10000 ≤ code

/-- Whether a word ends before what may be the next character. -/
def endsWord (next : Option Char) : Bool := next.all isGap

/-- Whether a line ends before what may be the next character. -/
def endsLine (next : Option Char) : Bool := next.all isBreak

/-- Whether a word ends before what may be the next character, where a tab does not end it. -/
def endsField (next : Option Char) : Bool :=
  next.all fun character => character == ' ' || isBreak character

/-! ### Places -/

/-- A place in a text. Lines and columns are counted from zero. -/
structure Cursor where
  rest : List Char
  index : Nat
  line : Nat
  column : Nat
  deriving Repr

namespace Cursor

/-- The start of a text. -/
def start (text : List Char) : Cursor := ⟨text, 0, 0, 0⟩

/-- The next character. -/
def peek (cursor : Cursor) : Option Char := cursor.rest.head?

/-- A character further on. -/
def peekAt (cursor : Cursor) (distance : Nat) : Option Char := cursor.rest[distance]?

/-- The place behind the next character. A carriage return ends a line unless a line feed
follows, and a byte-order mark takes no column. -/
def step (cursor : Cursor) : Cursor :=
  match cursor.rest with
  | [] => cursor
  | character :: rest =>
    if isBreak character && !(character == '\r' && rest.head? == some '\n') then
      ⟨rest, cursor.index + 1, cursor.line + 1, 0⟩
    else if character == '\uFEFF' then ⟨rest, cursor.index + 1, cursor.line, cursor.column⟩
    else ⟨rest, cursor.index + 1, cursor.line, cursor.column + 1⟩

/-- The place behind a number of characters. -/
def skip : (count : Nat) → Cursor → Cursor
  | 0, cursor => cursor
  | count + 1, cursor => skip count cursor.step

/-- The characters of a class that come next, and the place behind them. -/
def take (belongs : Char → Bool) (cursor : Cursor) : List Char × Cursor :=
  let taken := cursor.rest.takeWhile belongs
  (taken, cursor.skip taken.length)

/-- The place behind the characters of a class that come next. -/
def dropAll (belongs : Char → Bool) (cursor : Cursor) : Cursor := (cursor.take belongs).2

/-- The place behind spaces. -/
def dropSpaces (cursor : Cursor) : Cursor := cursor.dropAll (· == ' ')

/-- The place behind a comment, if one starts here. -/
def dropComment (cursor : Cursor) : Cursor :=
  if cursor.peek == some '#' then cursor.dropAll fun character => !isBreak character else cursor

/-- The line break that stands here and the place behind it. All of them count as a line feed but
the two separators of lines and paragraphs. -/
def lineBreak? (cursor : Cursor) : Option (Char × Cursor) :=
  match cursor.rest with
  | '\r' :: '\n' :: _ => some ('\n', cursor.skip 2)
  | character :: _ =>
    if character == '\u2028' || character == '\u2029' then some (character, cursor.step)
    else if isBreak character then some ('\n', cursor.step)
    else none
  | [] => none

/-- The place behind the line break that stands here, if one does. -/
def dropBreak (cursor : Cursor) : Cursor :=
  match cursor.lineBreak? with
  | some (_, behind) => behind
  | none => cursor

/-- Whether a mark of three equal characters stands here as a word. -/
def atMark (mark : Char) (cursor : Cursor) : Bool :=
  match cursor.rest with
  | first :: second :: third :: rest =>
    first == mark && second == mark && third == mark && endsWord rest.head?
  | _ => false

/-- Whether a mark between documents stands here. -/
def atDocumentMark (cursor : Cursor) : Bool := cursor.atMark '-' || cursor.atMark '.'

end Cursor

end ClientModel.Yaml
