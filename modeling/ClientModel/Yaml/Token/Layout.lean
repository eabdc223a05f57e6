/-
This file cuts a YAML text into its pieces. What opens and closes blocks is derived from columns on
the way. A key is not known as one until the colon behind it is reached, so whatever may turn out
to be a key is remembered with its place among the pieces; a key lies on one line and is not
longer than a bound.
-/

import ClientModel.Yaml.Token.Content

namespace ClientModel.Yaml

/-! ### What is known on the way -/

/-- A place where a key may have started. -/
structure PossibleKey where
  /-- The number of pieces in front of it. -/
  place : Nat
  /-- Whether nothing but a key can stand there. -/
  required : Bool
  index : Nat
  line : Nat
  column : Nat
  deriving Repr

/-- The longest key. -/
def longestKey : Nat := 1024

/-- Whether a key can no longer end here. -/
def PossibleKey.isStale (key : PossibleKey) (cursor : Cursor) : Bool :=
  key.line != cursor.line || longestKey < cursor.index - key.index

/-- How far a text was read: the pieces so far, last first, and their number; the columns of the
open blocks and the number of open brackets; whether a key may start here, and where keys may have
started, for each number of open brackets. -/
structure Layout where
  cursor : Cursor
  tokens : List Token
  count : Nat
  columns : List Nat
  depth : Nat
  keyAllowed : Bool
  keys : List (Nat × PossibleKey)

namespace Layout

/-- The state at the start of a text. A byte-order mark in front of it is skipped. -/
def start (text : List Char) : Layout where
  cursor := match text with
    | '\uFEFF' :: _ => (Cursor.start text).step
    | _ => Cursor.start text
  tokens := []
  count := 0
  columns := []
  depth := 0
  keyAllowed := true
  keys := []

/-- Whether brackets are open. -/
def inFlow (layout : Layout) : Bool := layout.depth != 0

/-- The least column at which the content of the innermost block may stand. -/
def leastColumn (layout : Layout) : Nat :=
  match layout.columns with
  | [] => 0
  | column :: _ => column + 1

/-- Adds a piece. -/
def push (token : Token) (layout : Layout) : Layout :=
  { layout with tokens := token :: layout.tokens, count := layout.count + 1 }

/-- Adds a piece in front of the pieces from a place on. -/
def insertAt (place : Nat) (token : Token) (layout : Layout) : Layout :=
  let following := layout.count - place
  { layout with
    tokens := layout.tokens.take following ++ token :: layout.tokens.drop following
    count := layout.count + 1 }

/-- Moves to a place. -/
def moveTo (cursor : Cursor) (layout : Layout) : Layout := { layout with cursor }

/-- Sets whether a key may start here. -/
def allowKey (allowed : Bool) (layout : Layout) : Layout := { layout with keyAllowed := allowed }

/-! ### Blocks -/

/-- Closes the blocks that are further to the right than the given least column. -/
def closeBlocks (least : Nat) : List Nat → Layout → Layout
  | [], layout => { layout with columns := [] }
  | column :: columns, layout =>
    if least ≤ column then closeBlocks least columns (layout.push .closeBlock)
    else { layout with columns := column :: columns }

/-- Closes the blocks that end at the current column. Inside brackets columns do not count. -/
def unwind (layout : Layout) : Layout :=
  if layout.inFlow then layout else closeBlocks (layout.cursor.column + 1) layout.columns layout

/-- Closes all blocks. -/
def unwindAll (layout : Layout) : Layout :=
  if layout.inFlow then layout else closeBlocks 0 layout.columns layout

/-- Whether a block at a column would be a new one. -/
def opensBlock (layout : Layout) (column : Nat) : Bool := layout.leastColumn ≤ column

/-- Opens a block at the current column, where it is a new one. -/
def openBlock (token : Token) (layout : Layout) : Layout :=
  let column := layout.cursor.column
  if layout.opensBlock column then { layout.push token with columns := column :: layout.columns }
  else layout

/-! ### Possible keys -/

/-- The possible key for the current number of open brackets. -/
def possibleKey? (layout : Layout) : Option PossibleKey :=
  (layout.keys.find? (·.1 == layout.depth)).map Prod.snd

/-- Forgets the possible key for the current number of open brackets. -/
def withoutKey (layout : Layout) : Layout :=
  { layout with keys := layout.keys.filter (·.1 != layout.depth) }

/-- Gives up the possible key for the current number of open brackets; one that was required is an
error. -/
def giveUpKey (layout : Layout) : Except Error Layout :=
  if layout.possibleKey?.any (·.required) then complain .keyWithoutColon
  else .ok layout.withoutKey

/-- Forgets the keys that can no longer end here; one that was required is an error. -/
def dropStaleKeys (layout : Layout) : Except Error Layout :=
  let (stale, fresh) := layout.keys.partition fun key => key.2.isStale layout.cursor
  if stale.any (·.2.required) then complain .keyWithoutColon
  else .ok { layout with keys := fresh }

/-- Remembers that a key may start here. -/
def saveKey (layout : Layout) : Except Error Layout :=
  if layout.keyAllowed then do
    let cursor := layout.cursor
    let required := !layout.inFlow && layout.columns.head? == some cursor.column
    let key : PossibleKey := ⟨layout.count, required, cursor.index, cursor.line, cursor.column⟩
    let layout ← layout.giveUpKey
    pure { layout with keys := (layout.depth, key) :: layout.keys }
  else .ok layout

/-! ### Pieces -/

/-- The place of the next piece, behind spaces, comments and line breaks. Outside of brackets a key
may start on a new line. -/
def skipGaps : (fuel : Nat) → Layout → Layout
  | 0, layout => layout
  | fuel + 1, layout =>
    let behind := layout.cursor.dropSpaces.dropComment
    match behind.lineBreak? with
    | none => layout.moveTo behind
    | some (_, next) =>
      let allowed := layout.keyAllowed || !layout.inFlow
      skipGaps fuel (({ layout with keyAllowed := allowed }).moveTo next)

/-- A piece of a few characters. -/
def mark (token : Token) (width : Nat) (layout : Layout) : Layout :=
  (layout.push token).moveTo (layout.cursor.skip width)

/-- The end of the text. -/
def finish (layout : Layout) : Except Error Layout := layout.unwindAll.giveUpKey

/-- A directive. -/
def addDirective (layout : Layout) : Except Error Layout := do
  let layout ← layout.unwindAll.giveUpKey
  let (token, behind) ← readDirective layout.cursor
  pure (((layout.allowKey false).push token).moveTo behind)

/-- A mark between documents. -/
def addDocumentMark (token : Token) (layout : Layout) : Except Error Layout := do
  let layout ← layout.unwindAll.giveUpKey
  pure ((layout.allowKey false).mark token 3)

/-- An opening bracket, with which a key may start. -/
def addOpening (token : Token) (layout : Layout) : Except Error Layout := do
  let layout ← layout.saveKey
  pure (({ layout with depth := layout.depth + 1 }.allowKey true).mark token 1)

/-- A closing bracket. -/
def addClosing (token : Token) (layout : Layout) : Except Error Layout := do
  let layout ← layout.giveUpKey
  if layout.inFlow then
    pure (({ layout with depth := layout.depth - 1 }.allowKey false).mark token 1)
  else complain .unopenedBracket

/-- A comma between brackets. -/
def addComma (layout : Layout) : Except Error Layout := do
  let layout ← (layout.allowKey true).giveUpKey
  pure (layout.mark .comma 1)

/-- Opens a block for an item, a key or a value that may not stand inside a line. -/
def openFor (token : Token) (complaint : Complaint) (layout : Layout) : Except Error Layout :=
  if layout.inFlow then .ok layout
  else if layout.keyAllowed then .ok (layout.openBlock token)
  else complain complaint

/-- The mark in front of an item of a block. -/
def addEntry (layout : Layout) : Except Error Layout := do
  let layout ← layout.openFor .openBlockList .misplacedEntry
  let layout ← (layout.allowKey true).giveUpKey
  pure (layout.mark .entry 1)

/-- The mark in front of a key. -/
def addKey (layout : Layout) : Except Error Layout := do
  let layout ← layout.openFor .openBlockMap .misplacedKey
  let layout ← (layout.allowKey !layout.inFlow).giveUpKey
  pure (layout.mark .key 1)

/-- The colon in front of a value. What was a possible key is one now, and opens a block where its
column says so. -/
def addValue (layout : Layout) : Except Error Layout := do
  match layout.possibleKey? with
  | some key =>
    let layout := (layout.withoutKey.insertAt key.place .key).allowKey false
    if !layout.inFlow && layout.opensBlock key.column then
      let layout := { layout with columns := key.column :: layout.columns }
      pure ((layout.insertAt key.place .openBlockMap).mark .value 1)
    else pure (layout.mark .value 1)
  | none =>
    let layout ← layout.openFor .openBlockMap .misplacedValue
    let layout ← (layout.allowKey !layout.inFlow).giveUpKey
    pure (layout.mark .value 1)

/-- A piece that may be a key or stand in front of one. -/
def addContent (token : Token) (behind : Cursor) (layout : Layout) : Except Error Layout := do
  let layout ← layout.saveKey
  pure (((layout.allowKey false).push token).moveTo behind)

/-- An alias. -/
def addAlias (layout : Layout) : Except Error Layout := do
  let (name, behind) ← readAnchor layout.cursor
  layout.addContent (.alias name) behind

/-- An anchor. -/
def addAnchor (layout : Layout) : Except Error Layout := do
  let (name, behind) ← readAnchor layout.cursor
  layout.addContent (.anchor name) behind

/-- A tag. -/
def addTag (layout : Layout) : Except Error Layout := do
  let (token, behind) ← readTag layout.cursor
  layout.addContent token behind

/-- A quoted scalar. -/
def addQuoted (double : Bool) (layout : Layout) : Except Error Layout := do
  let (content, behind) ← readQuoted double layout.cursor
  layout.addContent (.scalar content false) behind

/-- A plain scalar. A key may start behind it if a line ended there. -/
def addPlain (layout : Layout) : Except Error Layout := do
  let text := readPlain layout.inFlow layout.leastColumn layout.cursor
  let layout ← layout.addContent (.scalar (String.ofList text.characters) true) text.cursor
  pure (layout.allowKey text.crossesLine)

/-- A block scalar, which is never a key. -/
def addBlock (folded : Bool) (layout : Layout) : Except Error Layout := do
  let layout ← (layout.allowKey true).giveUpKey
  let (content, behind) ← readBlock folded layout.leastColumn layout.cursor
  pure ((layout.push (.scalar content false)).moveTo behind)

/-- The characters that a plain scalar does not start with. -/
def indicators : List Char :=
  ['-', '?', ':', ',', '[', ']', '{', '}', '#', '&', '*', '!', '|', '>', '\x27', '"', '%', '@',
    '\x60']

/-- Whether a plain scalar starts with a character. Three of the indicators may start one if no
gap follows, two of these only outside of brackets. -/
def startsPlain (inFlow : Bool) (character : Char) (next : Option Char) : Bool :=
  (!isGap character && !indicators.contains character) ||
    (!endsWord next && (character == '-' || (!inFlow && (character == '?' || character == ':'))))

/-- Adds the piece that starts with a character. -/
def addPiece (character : Char) (layout : Layout) : Except Error Layout :=
  let cursor := layout.cursor
  let gapFollows := endsWord (cursor.peekAt 1)
  if cursor.column == 0 && character == '%' then layout.addDirective
  else if cursor.column == 0 && cursor.atMark '-' then layout.addDocumentMark .documentStart
  else if cursor.column == 0 && cursor.atMark '.' then layout.addDocumentMark .documentEnd
  else if character == '[' then layout.addOpening .openFlowList
  else if character == '{' then layout.addOpening .openFlowMap
  else if character == ']' then layout.addClosing .closeFlowList
  else if character == '}' then layout.addClosing .closeFlowMap
  else if character == ',' then layout.addComma
  else if character == '-' && gapFollows then layout.addEntry
  else if character == '?' && (layout.inFlow || gapFollows) then layout.addKey
  else if character == ':' && (layout.inFlow || gapFollows) then layout.addValue
  else if character == '*' then layout.addAlias
  else if character == '&' then layout.addAnchor
  else if character == '!' then layout.addTag
  else if character == '|' && !layout.inFlow then layout.addBlock false
  else if character == '>' && !layout.inFlow then layout.addBlock true
  else if character == '\x27' then layout.addQuoted false
  else if character == '"' then layout.addQuoted true
  else if startsPlain layout.inFlow character (cursor.peekAt 1) then layout.addPlain
  else complain (.unexpectedCharacter character)

/-- Adds the next piece; at the end of the text, whatever the end closes. -/
def next (layout : Layout) : Except Error Layout := do
  let layout ← (layout.skipGaps (layout.cursor.rest.length + 1)).dropStaleKeys
  let layout := layout.unwind
  match layout.cursor.peek with
  | none => layout.finish
  | some character => layout.addPiece character

/-- The number of pieces that can be used before the text is read any further: those in front of
the first that may still be a key. -/
def settledCount (layout : Layout) : Nat :=
  let pending := layout.keys.filter fun key => !key.2.isStale layout.cursor
  pending.foldl (fun least key => min least key.2.place) layout.count

/-- The pieces that can be used before the text is read any further, last first. -/
def settled (layout : Layout) : List Token :=
  layout.tokens.drop (layout.count - layout.settledCount)

/-- The pieces from a state on, last first. -/
def allTokens : (fuel : Nat) → Layout → List Token
  | 0, layout => layout.tokens
  | fuel + 1, layout =>
    match layout.next with
    | .error error => .unreadable error :: layout.settled
    | .ok next => if next.cursor.rest.isEmpty && layout.cursor.rest.isEmpty then next.tokens
        else allTokens fuel next

end Layout

/-- The pieces of a text. -/
def tokens (text : List Char) : List Token :=
  match text.find? fun character => !isAllowed character with
  | some character => [.unreadable (.malformed (.forbiddenCharacter character))]
  | none => (Layout.allTokens (text.length + 2) (Layout.start text)).reverse

end ClientModel.Yaml
