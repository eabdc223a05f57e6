/-
This file reads scalars. A plain scalar ends where something else may start, and may go on over
lines that are indented further than the block it stands in; a quoted one ends at its quote; a
block scalar holds the lines below its header that are indented. A single line break inside a
scalar counts as a space, further ones count as themselves; only a literal block keeps them all.
-/

import ClientModel.Json.Token
import ClientModel.Yaml.Token.Property

namespace ClientModel.Yaml

/-! ### Line breaks inside a scalar -/

/-- A line break followed by further ones: a line feed alone is a space, a line feed in front of
others is nothing. -/
def foldedBreak (first : Char) (further : List Char) : List Char :=
  if first != '\n' then first :: further
  else if further.isEmpty then [' ']
  else further

/-! ### Plain scalars -/

/-- Whether a plain scalar goes on with the character at a place. A colon ends it in front of a
gap; inside brackets so do commas, question marks, and brackets. -/
def continuesPlain (inFlow : Bool) (character : Char) (next : Option Char) : Bool :=
  if isGap character then false
  else if character == ':' then
    !(endsWord next || (inFlow && next.any fun found => [',', '[', ']', '{', '}'].contains found))
  else !(inFlow && [',', '?', '[', ']', '{', '}'].contains character)

/-- The characters of a plain scalar up to a gap or its end. -/
def plainWord (inFlow : Bool) : List Char → List Char
  | [] => []
  | character :: rest =>
    if continuesPlain inFlow character rest.head? then character :: plainWord inFlow rest else []

/-- The breaks and spaces at the start of lines inside a plain scalar; nothing where a mark between
documents stands. -/
def plainBreaks : (fuel : Nat) → Cursor → Option (List Char) × Cursor
  | 0, cursor => (some [], cursor)
  | fuel + 1, cursor =>
    if cursor.peek == some ' ' then plainBreaks fuel cursor.step
    else
      match cursor.lineBreak? with
      | none => (some [], cursor)
      | some (character, behind) =>
        if behind.atDocumentMark then (none, behind)
        else
          let (further, last) := plainBreaks fuel behind
          (further.map (character :: ·), last)

/-- What stands between two words of a plain scalar. -/
structure PlainGap where
  /-- The characters that the gap stands for, if the scalar may go on behind it. -/
  characters : Option (List Char)
  /-- Whether a line ends in the gap. -/
  crossesLine : Bool
  cursor : Cursor

/-- The gap behind a word of a plain scalar. -/
def plainGap (cursor : Cursor) : PlainGap :=
  let (spaces, behind) := cursor.take (· == ' ')
  match behind.lineBreak? with
  | none => ⟨if spaces.isEmpty then none else some spaces, false, behind⟩
  | some (first, next) =>
    if next.atDocumentMark then ⟨none, true, next⟩
    else
      let (further, last) := plainBreaks (next.rest.length + 1) next
      ⟨further.map (foldedBreak first), true, last⟩

/-- A plain scalar: its characters, whether the last thing read was a line break, and the place
behind it. -/
structure PlainText where
  characters : List Char
  crossesLine : Bool
  cursor : Cursor

/-- A plain scalar from a place on, inside a block of the given least column. -/
def plainFrom (inFlow : Bool) (leastColumn : Nat) : (fuel : Nat) → Cursor → PlainText
  | 0, cursor => ⟨[], false, cursor⟩
  | fuel + 1, cursor =>
    let word := if cursor.peek == some '#' then [] else plainWord inFlow cursor.rest
    if word.isEmpty then ⟨[], false, cursor⟩
    else
      let gap := plainGap (cursor.skip word.length)
      let ends : PlainText := ⟨word, gap.crossesLine, gap.cursor⟩
      match gap.characters with
      | none => ends
      | some characters =>
        if gap.cursor.peek == some '#' || (!inFlow && gap.cursor.column < leastColumn) then ends
        else
          let further := plainFrom inFlow leastColumn fuel gap.cursor
          if further.characters.isEmpty then ends
          else ⟨word ++ characters ++ further.characters, further.crossesLine, further.cursor⟩

/-- A plain scalar. -/
def readPlain (inFlow : Bool) (leastColumn : Nat) (cursor : Cursor) : PlainText :=
  plainFrom inFlow leastColumn (cursor.rest.length + 1) cursor

/-! ### Quoted scalars -/

/-- The character that one letter after a backslash stands for. -/
def escapedLetter? : Char → Option Char
  | '0' => some '\x00'
  | 'a' => some '\x07'
  | 'b' => some '\x08'
  | 't' => some '\t'
  | '\t' => some '\t'
  | 'n' => some '\n'
  | 'v' => some '\x0B'
  | 'f' => some '\x0C'
  | 'r' => some '\r'
  | 'e' => some '\x1B'
  | ' ' => some ' '
  | '"' => some '"'
  | '\\' => some '\\'
  | '/' => some '/'
  | 'N' => some '\x85'
  | '_' => some '\u00A0'
  | 'L' => some '\u2028'
  | 'P' => some '\u2029'
  | _ => none

/-- The number of digits of an escape that writes a code. -/
def escapeWidth? : Char → Option Nat
  | 'x' => some 2
  | 'u' => some 4
  | 'U' => some 8
  | _ => none

/-- The code that digits behind a letter write. -/
def readCode (width : Nat) (cursor : Cursor) : Except Error (Nat × Cursor) :=
  let digits := cursor.rest.take width
  match digits.length == width, Text.readHex? digits with
  | true, some code =>
    if code < 0x110000 then .ok (code, cursor.skip width)
    else .error (.unfit (if code < 0x80000000 then .code else .largeCode))
  | _, _ => complain .escape

/-- The breaks and blanks at the start of lines inside a quoted scalar. -/
def quotedBreaks : (fuel : Nat) → Cursor → Except Error (List Char × Cursor)
  | 0, cursor => .ok ([], cursor)
  | fuel + 1, cursor =>
    if cursor.atDocumentMark then complain .separatorInText
    else
      let behind := cursor.dropAll fun character => character == ' ' || character == '\t'
      match behind.lineBreak? with
      | none => .ok ([], behind)
      | some (character, next) => do
        let (further, last) ← quotedBreaks fuel next
        pure (character :: further, last)

/-- Blanks inside a quoted scalar, or the line break behind them and those that follow. -/
def quotedGap (cursor : Cursor) : Except Error (List Char × Cursor) :=
  let (blanks, behind) := cursor.take fun character => character == ' ' || character == '\t'
  match behind.lineBreak? with
  | none => .ok (blanks, behind)
  | some (first, next) => do
    let (further, last) ← quotedBreaks (next.rest.length + 1) next
    pure (foldedBreak first further, last)

/-- One piece of a quoted scalar: characters, or a code of sixteen bits that may be half a pair. -/
inductive QuotedPiece where
  | characters (found : List Char)
  | code (unit : Nat)

/-- What a backslash starts inside double quotes. -/
def readEscape (cursor : Cursor) : Except Error (QuotedPiece × Cursor) :=
  match cursor.peek with
  | none => complain .escape
  | some letter =>
    match escapedLetter? letter, escapeWidth? letter with
    | some character, _ => .ok (.characters [character], cursor.step)
    | none, some width => do
      let (code, behind) ← readCode width cursor.step
      pure (.code code, behind)
    | none, none =>
      match cursor.lineBreak? with
      | none => complain .escape
      | some (_, next) => do
        let (further, last) ← quotedBreaks (next.rest.length + 1) next
        pure (.characters further, last)

/-- The next piece of a quoted scalar, where its closing quote does not stand. -/
def quotedPiece (double : Bool) (character : Char) (cursor : Cursor) :
    Except Error (QuotedPiece × Cursor) :=
  if isGap character then do
    let (found, behind) ← quotedGap cursor
    pure (.characters found, behind)
  else if double && character == '\\' then readEscape cursor.step
  else .ok (.characters [character], cursor.step)

/-- The pieces of a quoted scalar up to its closing quote. Inside single quotes, two of them stand
for one. -/
def quotedFrom (double : Bool) : (fuel : Nat) → Cursor → Except Error (List QuotedPiece × Cursor)
  | 0, _ => complain .unterminatedText
  | fuel + 1, cursor =>
    match cursor.peek with
    | none => complain .unterminatedText
    | some character =>
      let quote := if double then '"' else '\x27'
      if character == quote then
        if !double && cursor.peekAt 1 == some quote then do
          let (further, last) ← quotedFrom double fuel (cursor.skip 2)
          pure (.characters [quote] :: further, last)
        else .ok ([], cursor.step)
      else do
        let (piece, behind) ← quotedPiece double character cursor
        let (further, last) ← quotedFrom double fuel behind
        pure (piece :: further, last)

/-- The text that pieces make. Two codes that are the halves of a pair make one character. -/
def joinPieces : List QuotedPiece → List Char
  | [] => []
  | .characters found :: rest => found ++ joinPieces rest
  | .code high :: .code low :: rest =>
    if Json.isHighSurrogate high && Json.isLowSurrogate low then
      Json.characterOfPair high low :: joinPieces rest
    else Json.characterOfUnit high :: joinPieces (.code low :: rest)
  | .code unit :: rest => Json.characterOfUnit unit :: joinPieces rest

/-- A quoted scalar. -/
def readQuoted (double : Bool) (cursor : Cursor) : Except Error (String × Cursor) := do
  let (pieces, behind) ← quotedFrom double (cursor.rest.length + 1) cursor.step
  pure (String.ofList (joinPieces pieces), behind)

/-! ### Block scalars -/

/-- What becomes of the line breaks at the end of a block scalar. -/
inductive Chomping where
  | strip
  | clip
  | keep
  deriving DecidableEq, Repr

/-- The header of a block scalar. -/
structure BlockHeader where
  chomping : Chomping
  /-- How far the content is indented against the block around it, if the header says so. -/
  increment : Option Nat

/-- The chomping that a sign asks for. -/
def chomping? : Option Char → Option Chomping
  | some '+' => some .keep
  | some '-' => some .strip
  | _ => none

/-- The indentation that a digit asks for. -/
def increment? (next : Option Char) : Option Nat :=
  (next.filter Text.isAsciiDigit).map fun digit => digit.toNat - 48

/-- The header behind the mark of a block scalar: a sign and a digit in either order. -/
def readBlockHeader (cursor : Cursor) : Except Error (BlockHeader × Cursor) :=
  let signFirst := chomping? cursor.peek
  let afterFirst := if signFirst.isSome then cursor.step else cursor
  let digit := increment? afterFirst.peek
  let afterDigit := if digit.isSome then afterFirst.step else afterFirst
  let signLast := if signFirst.isNone && digit.isSome then chomping? afterDigit.peek else none
  let last := if signLast.isSome then afterDigit.step else afterDigit
  if digit == some 0 || !endsField last.peek then complain .blockHeader
  else .ok (⟨(signFirst.or signLast).getD .clip, digit⟩, last)

/-- The line breaks in front of the first line of a block scalar, and the greatest column that its
spaces reach. -/
def leadingBreaks : (fuel : Nat) → (reached : Nat) → Cursor → List Char × Nat × Cursor
  | 0, reached, cursor => ([], reached, cursor)
  | fuel + 1, reached, cursor =>
    if cursor.peek == some ' ' then
      leadingBreaks fuel (max reached cursor.step.column) cursor.step
    else
      match cursor.lineBreak? with
      | none => ([], reached, cursor)
      | some (character, behind) =>
        let (further, last) := leadingBreaks fuel reached behind
        (character :: further, last)

/-- The place behind the spaces of a line that belong to the indentation of a column. -/
def dropIndentation : (count : Nat) → (column : Nat) → Cursor → Cursor
  | 0, _, cursor => cursor
  | count + 1, column, cursor =>
    if cursor.column < column && cursor.peek == some ' ' then
      dropIndentation count column cursor.step
    else cursor

/-- The line breaks in front of the next line that is indented to a column. -/
def innerBreaks (column : Nat) : (fuel : Nat) → Cursor → List Char × Cursor
  | 0, cursor => ([], cursor)
  | fuel + 1, cursor =>
    let behind := dropIndentation column column cursor
    match behind.lineBreak? with
    | none => ([], behind)
    | some (character, next) =>
      let (further, last) := innerBreaks column fuel next
      (character :: further, last)

/-- Whether what comes next is neither a space nor a tab. -/
def startsFull (cursor : Cursor) : Bool :=
  !(cursor.peek == some ' ' || cursor.peek == some '\t')

/-- What stands between two lines of a block scalar. A folded block joins two lines by a space if
neither of them starts with a blank. -/
def lineJoint (folded fullBefore fullAfter : Bool) (ending : Option Char)
    (breaks : List Char) : List Char :=
  if folded && ending == some '\n' && fullBefore && fullAfter then
    if breaks.isEmpty then [' '] else []
  else ending.toList

/-- The lines of a block scalar from a line that is indented to a column, with the breaks in front
of it. -/
def blockLines (folded : Bool) (chomping : Chomping) (column : Nat) :
    (fuel : Nat) → (breaks : List Char) → (ending : Option Char) → Cursor → List Char × Cursor
  | 0, _, _, cursor => ([], cursor)
  | fuel + 1, breaks, ending, cursor =>
    if cursor.column == column && cursor.peek.isSome then
      let (line, behind) := cursor.take fun character => !isBreak character
      let ending' := behind.lineBreak?.map Prod.fst
      let next := behind.dropBreak
      let (breaks', following) := innerBreaks column (next.rest.length + 1) next
      let joint :=
        if following.column == column && following.peek.isSome then
          lineJoint folded (startsFull cursor) (startsFull following) ending' breaks'
        else []
      let (further, last) := blockLines folded chomping column fuel breaks' ending' following
      (breaks ++ line ++ joint ++ further, last)
    else
      let kept := match chomping with
        | .strip => []
        | .clip => ending.toList
        | .keep => ending.toList ++ breaks
      (kept, cursor)

/-- A block scalar inside a block of the given least column, from its mark on. -/
def readBlock (folded : Bool) (leastColumn : Nat) (cursor : Cursor) :
    Except Error (String × Cursor) := do
  let (header, behind) ← readBlockHeader cursor.step
  let first ← finishLine .blockHeader behind
  let least := max leastColumn 1
  let fuel := first.rest.length + 1
  let (breaks, column, start) := match header.increment with
    | none =>
      let (breaks, reached, start) := leadingBreaks fuel 0 first
      (breaks, max least reached, start)
    | some increment =>
      let column := least + increment - 1
      let (breaks, start) := innerBreaks column fuel first
      (breaks, column, start)
  let (content, last) := blockLines folded header.chomping column fuel breaks none start
  pure (String.ofList content, last)

end ClientModel.Yaml
