/-
This file reads the markup of messages. A tag stands in brackets and starts with a lower-case
letter, a number sign, a slash or an at sign; tags are left out of what is shown. A backslash in
front of a bracket takes its meaning away, and two backslashes in front of a tag are one. A tag
that closes another by its name, or the innermost one, has to find it open; the arguments of a tag
with an at sign have to be literals when it is closed.
-/

import ClientModel.Output.Emoji
import ClientModel.Output.Literal
import ClientModel.Output.Style

namespace ClientModel.Markup

/-! ### Pieces -/

/-- A piece of a message. -/
inductive Piece where
  | text (content : List Char)
  | tag (content : List Char)
  deriving DecidableEq, Repr

/-- Whether a tag can start with a character. -/
def startsTag (character : Char) : Bool :=
  character.isLower || character == '#' || character == '/' || character == '@'

/-- The inside of a tag that follows an opening bracket. -/
def tagInside? : List Char → Option (List Char)
  | [] => none
  | first :: rest =>
    let more := rest.takeWhile fun character => character != ']' && character != '['
    if startsTag first && (rest.drop more.length).head? == some ']' then some (first :: more)
    else none

/-- The tag that a text starts with after a run of backslashes: how many these are, and the
inside of the tag. -/
def tagAt? (text : List Char) : Option (Nat × List Char) :=
  let escapes := text.takeWhile (· == '\\')
  match text.drop escapes.length with
  | '[' :: rest => (tagInside? rest).map fun inside => (escapes.length, inside)
  | _ => none

/-- The pieces for a tag after backslashes: every two of these are one, and a last one makes the
tag a text. -/
def piecesOfTag (escapes : Nat) (inside : List Char) : List Piece :=
  .text (List.replicate (escapes / 2) '\\') ::
    (if escapes % 2 == 1 then [.text ('[' :: inside ++ [']'])] else [.tag inside])

/-- The text up to the next tag, and the pieces from there on. `skip` is the number of characters
that still belong to the tag before. -/
def piecesFrom : (skip : Nat) → List Char → List Char × List Piece
  | _, [] => ([], [])
  | skip + 1, _ :: rest => piecesFrom skip rest
  | 0, character :: rest =>
    match tagAt? (character :: rest) with
    | some (escapes, inside) =>
      let (text, pieces) := piecesFrom (escapes + inside.length + 1) rest
      ([], piecesOfTag escapes inside ++ .text text :: pieces)
    | none =>
      let (text, pieces) := piecesFrom 0 rest
      (character :: text, pieces)

/-- The pieces of a message. -/
def pieces (message : List Char) : List Piece :=
  let (text, rest) := piecesFrom 0 message
  .text text :: rest

/-- A text without the backslashes in front of brackets. -/
def withoutEscapes : List Char → List Char
  | '\\' :: '[' :: rest => '[' :: withoutEscapes rest
  | character :: rest => character :: withoutEscapes rest
  | [] => []

/-! ### Open tags -/

/-- Why a message cannot be shown. -/
inductive Fault where
  /-- A tag closes what is not open, or has arguments that are no literals. -/
  | tag
  /-- The name of a color has no number where one has to be. -/
  | color
  deriving DecidableEq, Repr

/-- The text of a fault. -/
def Fault.message : Fault → String
  | .tag => "a message closes a tag that is not open"
  | .color => "invalid literal for int() with base 10: ''"

/-- A tag that is open: its plain name, and what follows the equals sign. -/
structure OpenTag where
  name : List Char
  parameters : List Char
  deriving DecidableEq, Repr

/-- The plain form of the name of a tag. -/
def plainName (name : List Char) : Except Fault (List Char) :=
  (Style.plainName name).mapError fun _ => .color

/-- Whether a tag may be closed: the arguments of one with an at sign have to be literals. -/
def OpenTag.isClosable (opened : OpenTag) : Bool :=
  opened.name.head? != some '@' || opened.parameters.isEmpty ||
    Literal.isHandler opened.parameters

/-- Closes a tag, the innermost one of that name or of all. -/
def close (isMeant : OpenTag → Bool) (opened : List OpenTag) : Except Fault (List OpenTag) :=
  match opened.find? isMeant with
  | some tag => if tag.isClosable then .ok (opened.erase tag) else .error .tag
  | none => .error .tag

/-- What a tag does to the tags that are open, the innermost first. -/
def applyTag (inside : List Char) (opened : List OpenTag) : Except Fault (List OpenTag) :=
  let name := inside.takeWhile (· != '=')
  match name with
  | '/' :: own =>
    if (Text.trim own).isEmpty then close (fun _ => true) opened
    else do
      let plain ← plainName (Text.trim own)
      close (·.name == plain) opened
  | _ => do
    let plain ← plainName name
    return ⟨plain, inside.drop (name.length + 1)⟩ :: opened

/-- The text of pieces, if every tag that closes finds what it closes. -/
def textOf : (opened : List OpenTag) → List Piece → Except Fault (List Char)
  | _, [] => .ok []
  | opened, .text content :: rest =>
    (textOf opened rest).map (Emoji.replaced (withoutEscapes content) ++ ·)
  | opened, .tag inside :: rest => applyTag inside opened >>= fun opened => textOf opened rest

/-- What a message with markup says. -/
def read (message : String) : Except Fault (List Char) := textOf [] (pieces message.toList)

end ClientModel.Markup
