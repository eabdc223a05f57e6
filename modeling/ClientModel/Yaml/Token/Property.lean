/-
This file reads what stands in front of a node or of a document: the names of anchors and aliases,
tags, and directives.
-/

import ClientModel.Yaml.Cursor
import ClientModel.Yaml.Token

namespace ClientModel.Yaml

/-- A complaint about the text. -/
def complain {Product : Type} (complaint : Complaint) : Except Error Product :=
  .error (.malformed complaint)

/-! ### Names -/

/-- The characters that may follow the name of an anchor without a gap. -/
def anchorEnds : List Char := ['?', ':', ',', ']', '}', '%', '@', '\x60']

/-- A name of letters and digits. -/
def readName (cursor : Cursor) : Except Error (String × Cursor) :=
  let (taken, behind) := cursor.take isNameCharacter
  if taken.isEmpty then complain .emptyName else .ok (String.ofList taken, behind)

/-- The name of an anchor or alias, behind its mark. -/
def readAnchor (cursor : Cursor) : Except Error (String × Cursor) := do
  let (name, behind) ← readName cursor.step
  if behind.peek.all fun next => isGap next || anchorEnds.contains next then pure (name, behind)
  else complain .emptyName

/-! ### Tags -/

/-- The bytes that escapes of two digits write, and how many escapes there are. -/
def escapedBytes : List Char → Option (List UInt8)
  | '%' :: first :: second :: rest => do
    let code ← Text.readHex? [first, second]
    let bytes ← escapedBytes rest
    pure (code.toUInt8 :: bytes)
  | '%' :: _ => none
  | _ => some []

/-- The characters that escapes write. -/
def readEscapes (cursor : Cursor) : Except Error (List Char × Cursor) :=
  match escapedBytes cursor.rest with
  | none => complain .malformedTag
  | some bytes =>
    match String.fromUTF8? ⟨bytes.toArray⟩ with
    | none => complain .malformedTag
    | some text => .ok (text.toList, cursor.skip (3 * bytes.length))

/-- The characters of a tag from a place on. -/
def readTagFrom : (fuel : Nat) → Cursor → Except Error (List Char × Cursor)
  | 0, cursor => .ok ([], cursor)
  | fuel + 1, cursor =>
    match cursor.peek with
    | some '%' => do
      let (characters, behind) ← readEscapes cursor
      let (further, last) ← readTagFrom fuel behind
      pure (characters ++ further, last)
    | some character =>
      if isTagCharacter character then do
        let (further, last) ← readTagFrom fuel cursor.step
        pure (character :: further, last)
      else .ok ([], cursor)
    | none => .ok ([], cursor)

/-- The part of a tag behind its handle. -/
def readSuffix (cursor : Cursor) : Except Error (String × Cursor) := do
  let (characters, behind) ← readTagFrom (cursor.rest.length + 1) cursor
  if characters.isEmpty then complain .malformedTag else pure (String.ofList characters, behind)

/-- A handle: an exclamation mark, or a name between two of them. -/
def readHandle (cursor : Cursor) : Except Error (String × Cursor) :=
  if cursor.peek != some '!' then complain .malformedTag
  else if cursor.peekAt 1 == some ' ' then .ok ("!", cursor.step)
  else
    let (name, behind) := cursor.step.take isNameCharacter
    if behind.peek == some '!' then .ok (String.ofList ('!' :: name ++ ['!']), behind.step)
    else complain .malformedTag

/-- Whether a tag has a handle with a name: another exclamation mark stands in it. -/
def hasNamedHandle (cursor : Cursor) : Bool :=
  ((cursor.rest.drop 1).takeWhile fun character => !endsField (some character)).contains '!'

/-- The handle and the suffix of a tag. -/
def readTagParts (cursor : Cursor) : Except Error ((Option String × String) × Cursor) :=
  if cursor.peekAt 1 == some '<' then do
    let (suffix, behind) ← readSuffix (cursor.skip 2)
    if behind.peek == some '>' then pure ((none, suffix), behind.step)
    else complain .malformedTag
  else if endsWord (cursor.peekAt 1) then .ok ((none, "!"), cursor.step)
  else do
    let (handle, behind) ←
      if hasNamedHandle cursor then readHandle cursor else .ok ("!", cursor.step)
    let (suffix, last) ← readSuffix behind
    pure ((some handle, suffix), last)

/-- A tag. -/
def readTag (cursor : Cursor) : Except Error (Token × Cursor) := do
  let ((handle, suffix), behind) ← readTagParts cursor
  if endsField behind.peek then pure (.tag handle suffix, behind) else complain .malformedTag

/-! ### Directives -/

/-- The place behind spaces, a comment and the end of the line. -/
def finishLine (complaint : Complaint) (cursor : Cursor) : Except Error Cursor :=
  let last := cursor.dropSpaces.dropComment
  if endsLine last.peek then .ok last.dropBreak else complain complaint

/-- A number of a version. -/
def readVersionNumber (cursor : Cursor) : Except Error (Nat × Cursor) :=
  let (digits, behind) := cursor.take Text.isAsciiDigit
  if digits.isEmpty then complain .malformedDirective
  else if Text.longestInteger < digits.length then
    .error (.unfit (.longInteger digits.length))
  else .ok (Text.naturalOf digits, behind)

/-- The version that a directive gives: two numbers with a point between them. -/
def readVersion (cursor : Cursor) : Except Error (Directive × Cursor) := do
  let (major, behind) ← readVersionNumber cursor.dropSpaces
  if behind.peek != some '.' then complain .malformedDirective
  else
    let (_, last) ← readVersionNumber behind.step
    if endsField last.peek then pure (.version major, last) else complain .malformedDirective

/-- The handle that a directive gives, and what it stands for. -/
def readTagDirective (cursor : Cursor) : Except Error (Directive × Cursor) := do
  let (handle, behind) ← readHandle cursor.dropSpaces
  if behind.peek != some ' ' then complain .malformedDirective
  else
    let (leading, last) ← readSuffix behind.dropSpaces
    if endsField last.peek then pure (.tagHandle handle leading, last)
    else complain .malformedDirective

/-- A directive up to the end of its line. One of an unknown name says nothing. -/
def readDirective (cursor : Cursor) : Except Error (Token × Cursor) := do
  let (name, behind) ← readName cursor.step
  if !endsField behind.peek then complain .malformedDirective
  else
    let (content, last) ←
      if name == "YAML" then readVersion behind
      else if name == "TAG" then readTagDirective behind
      else .ok (.other, behind.dropAll fun character => !isBreak character)
    let next ← finishLine .malformedDirective last
    pure (.directive content, next)

end ClientModel.Yaml
