/-
This file tells whether a text is a literal: a number, a text or bytes between quotes, a truth
value, or a collection of literals. A handler is a name with literal arguments in parentheses, or
without any; where there is no such name, the whole has to be a literal.
-/

import ClientModel.Text.Blank
import ClientModel.Text.Hex

namespace ClientModel.Literal

/-! ### Tokens -/

/-- A token of a literal. -/
inductive Token where
  /-- A number, real or imaginary. -/
  | number (imaginary : Bool)
  /-- A text between quotes, or bytes. -/
  | quoted (bytes : Bool)
  | word (name : String)
  | mark (character : Char)
  | ellipsis
  deriving DecidableEq, Repr

/-- Whether a word can go on with a character. -/
def isWordPart (character : Char) : Bool :=
  character.isAlphanum || character == '_' || 0x80 ≤ character.toNat

/-- How many digits a text starts with, single underscores between them included. -/
def digitRun (isDigit : Char → Bool) : List Char → Nat
  | '_' :: next :: rest => if isDigit next then 2 + digitRun isDigit rest else 0
  | character :: rest => if isDigit character then 1 + digitRun isDigit rest else 0
  | [] => 0

/-- The same, where the first character has to be a digit. -/
def digits (isDigit : Char → Bool) (text : List Char) : Nat :=
  match text with
  | first :: _ => if isDigit first then digitRun isDigit text else 0
  | [] => 0

/-- How many characters of an exponent a text starts with. -/
def exponent (text : List Char) : Nat :=
  match text with
  | mark :: rest =>
    if mark != 'e' && mark != 'E' then 0
    else
      let signs := if rest.head? == some '+' || rest.head? == some '-' then 1 else 0
      let count := digits Char.isDigit (rest.drop signs)
      if count == 0 then 0 else 1 + signs + count
  | [] => 0

/-- The bases that are named in front of the digits. -/
def bases : List (Char × (Char → Bool)) := [
  ('x', fun character => (Text.hexValue? character).isSome),
  ('o', fun character => '0' ≤ character && character ≤ '7'),
  ('b', fun character => character == '0' || character == '1')]

/-- The number in a named base that a text starts with. -/
def based? (text : List Char) : Option Nat :=
  match text with
  | '0' :: base :: rest =>
    (bases.lookup base.toLower).bind fun isDigit =>
      let start := if rest.head? == some '_' then 1 else 0
      let count := digits isDigit (rest.drop start)
      if count == 0 then none else some (2 + start + count)
  | _ => none

/-- The number that a text starts with: its length, and whether it is imaginary. -/
def number? (text : List Char) : Option (Nat × Bool) :=
  match based? text with
  | some length => some (length, false)
  | none =>
    let whole := digits Char.isDigit text
    let rest := text.drop whole
    let fraction := if rest.head? == some '.' then 1 + digits Char.isDigit (rest.drop 1) else 0
    let power := exponent (rest.drop fraction)
    let length := whole + fraction + power
    let imaginary := ((text.drop length).head?.map Char.toLower) == some 'j'
    let padded := 1 < whole && text.head? == some '0' && (text.take whole).any fun digit =>
      digit != '0' && digit != '_'
    if whole == 0 && fraction ≤ 1 then none
    else if padded && fraction == 0 && power == 0 && !imaginary then none
    else some (if imaginary then length + 1 else length, imaginary)

/-- Whether the digits of an escape are there. -/
def hasHex (count : Nat) (text : List Char) : Bool :=
  let found := text.take count
  found.length == count && found.all fun digit => (Text.hexValue? digit).isSome

/-- Whether what follows a backslash is right. -/
def isEscape (bytes : Bool) : List Char → Bool
  | 'x' :: rest => hasHex 2 rest
  | 'u' :: rest => bytes || hasHex 4 rest
  | 'U' :: rest => bytes || (hasHex 8 rest && ((Text.readHex? (rest.take 8)).getD 0) ≤ 0x10FFFF)
  | 'N' :: rest => bytes || rest.head? == some '{'
  | _ => true

/-- What follows a text between quotes, which was opened before; `quotes` closes it. -/
def afterQuoted? (raw bytes : Bool) (quotes : List Char) : (skip : Nat) → List Char →
    Option (List Char)
  | _, [] => none
  | skip + 1, _ :: rest => afterQuoted? raw bytes quotes skip rest
  | 0, character :: rest =>
    if quotes.isPrefixOf (character :: rest) then some ((character :: rest).drop quotes.length)
    else if character == '\\' then
      if raw || isEscape bytes rest then afterQuoted? raw bytes quotes 1 rest else none
    else if character == '\n' && quotes.length == 1 then none
    else if bytes && 0x80 ≤ character.toNat then none
    else afterQuoted? raw bytes quotes 0 rest

/-- The text or the bytes that a text starts with, and what follows. -/
def quoted? (text : List Char) : Option (Bool × List Char) :=
  let letters := text.takeWhile Char.isAlpha
  let kind := String.ofList (letters.map Char.toLower)
  let rest := text.drop letters.length
  match rest with
  | quote :: _ =>
    if (quote == '\x27' || quote == '"') && ["", "r", "u", "b", "br", "rb"].contains kind then
      let triple := List.replicate 3 quote
      let quotes := if triple.isPrefixOf rest then triple else [quote]
      let bytes := kind.contains 'b'
      (afterQuoted? (kind.contains 'r') bytes quotes 0 (rest.drop quotes.length)).map (bytes, ·)
    else none
  | [] => none

/-- The tokens of a text. `depth` is the number of brackets that are open, `fuel` bounds the number
of tokens and blanks. -/
def tokensFrom : (fuel depth : Nat) → List Char → Option (List Token)
  | 0, _, _ => none
  | _ + 1, _, [] => some []
  | fuel + 1, depth, character :: rest =>
    let text := character :: rest
    if character == ' ' || character == '\t' || character == '\x0C' then tokensFrom fuel depth rest
    else if character == '\n' then if 0 < depth then tokensFrom fuel depth rest else none
    else if character == '#' then tokensFrom fuel depth (rest.dropWhile (· != '\n'))
    else if character == '\\' && rest.head? == some '\n' then tokensFrom fuel depth (rest.drop 1)
    else match quoted? text with
      | some (bytes, rest) => (tokensFrom fuel depth rest).map (.quoted bytes :: ·)
      | none =>
        match number? text with
        | some (length, imaginary) =>
          let rest := text.drop length
          if (rest.head?.map isWordPart).getD false then none
          else (tokensFrom fuel depth rest).map (.number imaginary :: ·)
        | none =>
          if "...".toList.isPrefixOf text then
            (tokensFrom fuel depth (text.drop 3)).map (.ellipsis :: ·)
          else if isWordPart character then
            let word := text.takeWhile isWordPart
            (tokensFrom fuel depth (text.drop word.length)).map
              (.word (String.ofList word) :: ·)
          else
            let opens := ['(', '[', '{'].contains character
            let closes := [')', ']', '}'].contains character
            let depth := if opens then depth + 1 else if closes then depth - 1 else depth
            (tokensFrom fuel depth rest).map (.mark character :: ·)

/-! ### Literals -/

/-- What a literal is, as far as it matters where it may stand. -/
inductive Kind where
  | real
  | imaginary
  /-- A real number with a sign. -/
  | signed
  /-- Any other that can be a key. -/
  | key
  /-- A collection that can be none. -/
  | collection
  deriving DecidableEq, Repr

/-- What a collection of these is, if it can be a key with them. -/
def Kind.ofItems (items : List Kind) : Kind :=
  if items.contains .collection then .collection else .key

/-- Texts or bytes that stand side by side are one; both kinds cannot. -/
def afterQuotes? (bytes : Bool) : List Token → Option (List Token)
  | .quoted other :: rest => if other == bytes then afterQuotes? bytes rest else none
  | rest => some rest

mutual

/-- The literal that tokens start with, and the tokens after it. -/
def literal? : (fuel : Nat) → List Token → Option (Kind × List Token)
  | 0, _ => none
  | fuel + 1, tokens =>
    match operand? fuel tokens with
    | some (left, .mark sign :: rest) =>
      if sign != '+' && sign != '-' then some (left, .mark sign :: rest)
      else match operand? fuel rest with
        | some (.imaginary, rest) =>
          if left == .real || left == .signed then some (.key, rest) else none
        | _ => none
    | other => other

/-- The literal without a sum that tokens start with. -/
def operand? : (fuel : Nat) → List Token → Option (Kind × List Token)
  | 0, _ => none
  | fuel + 1, .mark '-' :: rest => signed? fuel rest
  | fuel + 1, .mark '+' :: rest => signed? fuel rest
  | _ + 1, .number imaginary :: rest => some (if imaginary then .imaginary else .real, rest)
  | _ + 1, .quoted bytes :: rest => (afterQuotes? bytes rest).map (Kind.key, ·)
  | _ + 1, .ellipsis :: rest => some (.key, rest)
  | _ + 1, .word name :: rest =>
    if ["True", "False", "None"].contains name then some (.key, rest)
    else match name, rest with
      | "set", .mark '(' :: .mark ')' :: rest => some (.collection, rest)
      | _, _ => none
  | fuel + 1, .mark '(' :: rest =>
    match items? fuel ')' rest with
    | some ([only], false, rest) => some (only, rest)
    | some (items, _, rest) => some (.ofItems items, rest)
    | none => none
  | fuel + 1, .mark '[' :: rest => (items? fuel ']' rest).map fun found => (.collection, found.2.2)
  | fuel + 1, .mark '{' :: rest => entries? fuel rest
  | _ + 1, _ => none

/-- The number that tokens start with, after a sign. -/
def signed? : (fuel : Nat) → List Token → Option (Kind × List Token)
  | 0, _ => none
  | fuel + 1, tokens =>
    match operand? fuel tokens with
    | some (.real, rest) => some (.signed, rest)
    | some (.imaginary, rest) => some (.key, rest)
    | _ => none

/-- The literals up to a closing mark, whether a comma stands before it, and the tokens after
it. -/
def items? : (fuel : Nat) → (closing : Char) → List Token →
    Option (List Kind × Bool × List Token)
  | 0, _, _ => none
  | fuel + 1, closing, tokens =>
    if tokens.head? == some (.mark closing) then some ([], true, tokens.drop 1)
    else match literal? fuel tokens with
      | some (kind, .mark ',' :: rest) =>
        (items? fuel closing rest).map fun (kinds, comma, rest) => (kind :: kinds, comma, rest)
      | some (kind, .mark mark :: rest) =>
        if mark == closing then some ([kind], false, rest) else none
      | _ => none

/-- The members of a set or the entries of a map, and the tokens after it. -/
def entries? : (fuel : Nat) → List Token → Option (Kind × List Token)
  | 0, _ => none
  | _ + 1, .mark '}' :: rest => some (.collection, rest)
  | fuel + 1, tokens =>
    match literal? fuel tokens with
    | some (.collection, _) => none
    | some (_, .mark ':' :: rest) =>
      match literal? fuel rest with
      | some (_, .mark ',' :: rest) => moreEntries? fuel rest
      | some (_, .mark '}' :: rest) => some (.collection, rest)
      | _ => none
    | _ =>
      match items? fuel '}' tokens with
      | some (kinds, _, rest) =>
        if kinds.contains .collection then none else some (.collection, rest)
      | none => none

/-- More entries of a map, and the tokens after it. -/
def moreEntries? : (fuel : Nat) → List Token → Option (Kind × List Token)
  | 0, _ => none
  | _ + 1, .mark '}' :: rest => some (.collection, rest)
  | fuel + 1, tokens =>
    match literal? fuel tokens with
    | some (.collection, _) => none
    | some (_, .mark ':' :: rest) =>
      match literal? fuel rest with
      | some (_, .mark ',' :: rest) => moreEntries? fuel rest
      | some (_, .mark '}' :: rest) => some (.collection, rest)
      | _ => none
    | _ => none

end

/-- Whether tokens are one literal, or some with commas between them. -/
def areLiterals (tokens : List Token) : Bool :=
  match items? (4 * tokens.length + 8) '\n' (tokens ++ [.mark '\n']) with
  | some (_ :: _, _, []) => true
  | _ => false

/-- Whether a text is a literal. -/
def isLiteral (text : List Char) : Bool :=
  match tokensFrom (text.length + 1) 0 text with
  | some tokens => areLiterals tokens
  | none => false

/-! ### Handlers -/

/-- The arguments of a handler: what follows its name, if that is nothing or in parentheses. -/
def arguments? (text : List Char) : Option (List Char) :=
  match text.dropWhile fun character => isWordPart character || character == '.' with
  | [] => some "()".toList
  | '(' :: rest =>
    if rest.getLast? == some ')' && !rest.contains '\n' then some ('(' :: rest) else none
  | _ => none

/-- Whether a text is a handler. -/
def isHandler (text : List Char) : Bool :=
  let trimmed := Text.trim text
  isLiteral ((arguments? trimmed).getD trimmed)

end ClientModel.Literal
