/-
This file cuts JSON text into tokens, each with the position of its first character. A text that
is opened and cannot be read to its end is a token too, which carries the complaint, and so is a
character that starts no token: whether either is an error depends on what may come there.
-/

import ClientModel.Binary64.Decimal
import ClientModel.Text.Hex
import ClientModel.Value.Basic

namespace ClientModel.Json

/-! ### Tokens and complaints -/

/-- What can be wrong with JSON text. -/
inductive Complaint where
  | expectingValue
  | expectingKey
  | expectingColon
  | expectingComma
  | unterminatedText
  | controlCharacter
  | invalidUnitEscape
  | invalidEscape
  | extraData
  | byteOrderMark
  deriving DecidableEq, Repr

/-- The text of a complaint. -/
def Complaint.message : Complaint → String
  | .expectingValue => "Expecting value"
  | .expectingKey => "Expecting property name enclosed in double quotes"
  | .expectingColon => "Expecting ':' delimiter"
  | .expectingComma => "Expecting ',' delimiter"
  | .unterminatedText => "Unterminated string starting at"
  | .controlCharacter => "Invalid control character at"
  | .invalidUnitEscape => "Invalid \\uXXXX escape"
  | .invalidEscape => "Invalid \\escape"
  | .extraData => "Extra data"
  | .byteOrderMark => "Unexpected UTF-8 BOM (decode using utf-8-sig)"

/-- Why a text could not be read: a complaint at a position, an integer of too many digits, or lists
and maps that are nested too deep. -/
inductive Error where
  | malformed (complaint : Complaint) (position : Nat)
  | longInteger (digits : Nat)
  | tooDeep
  deriving DecidableEq, Repr

/-- A piece of JSON text. -/
inductive Token where
  | openList
  | closeList
  | openMap
  | closeMap
  | colon
  | comma
  | text (content : String)
  | scalar (content : Scalar)
  | longInteger (digits : Nat)
  | unreadable (complaint : Complaint) (position : Nat)
  | foreign
  deriving DecidableEq, Repr

/-! ### Texts -/

/-- The character that one letter after a backslash stands for. -/
def escapedCharacter? : Char → Option Char
  | '"' => some '"'
  | '\\' => some '\\'
  | '/' => some '/'
  | 'b' => some '\x08'
  | 'f' => some '\x0C'
  | 'n' => some '\n'
  | 'r' => some '\r'
  | 't' => some '\t'
  | _ => none

/-- Whether a unit of sixteen bits is the first half of a pair. -/
def isHighSurrogate (unit : Nat) : Bool := 0xD800 ≤ unit && unit ≤ 0xDBFF

/-- Whether a unit of sixteen bits is the second half of a pair. -/
def isLowSurrogate (unit : Nat) : Bool := 0xDC00 ≤ unit && unit ≤ 0xDFFF

/-- The character of a unit that stands alone; half a pair is shown as the replacement
character. -/
def characterOfUnit (unit : Nat) : Char :=
  if isHighSurrogate unit || isLowSurrogate unit then '\uFFFD' else Char.ofNat unit

/-- The character of a pair of units. -/
def characterOfPair (high low : Nat) : Char :=
  Char.ofNat (0x10000 + (high - 0xD800) * 0x400 + (low - 0xDC00))

/-- What a text gives: its characters and the position after the closing quote. -/
structure ReadText where
  characters : List Char
  finish : Nat

/-- The text with more characters in front. -/
def ReadText.prepend (characters : List Char) (text : ReadText) : ReadText :=
  { text with characters := characters ++ text.characters }

/-- A first half of a pair that no second half followed. -/
def unpaired (high : Option Nat) : List Char :=
  (high.map characterOfUnit).toList

/-- Reads a text up to its closing quote. `start` is the position of the opening quote, to which
a text without an end is traced, `position` the position of the next character, and `high` a
first half of a pair that was just read. An escape of a unit needs a character after its four
digits. -/
def readText (start : Nat) :
    (position : Nat) → (high : Option Nat) → List Char → Except (Complaint × Nat) ReadText
  | _, _, [] => .error (.unterminatedText, start)
  | position, high, '"' :: _ => .ok ⟨unpaired high, position + 1⟩
  | position, high, '\\' :: 'u' :: a :: b :: c :: d :: rest =>
    match rest.isEmpty, Text.readHex? [a, b, c, d] with
    | true, _ | _, none => .error (.invalidUnitEscape, position + 1)
    | false, some unit =>
      match high with
      | some half =>
        if isLowSurrogate unit then
          (readText start (position + 6) none rest).map (·.prepend [characterOfPair half unit])
        else if isHighSurrogate unit then
          (readText start (position + 6) (some unit) rest).map (·.prepend [characterOfUnit half])
        else
          (readText start (position + 6) none rest).map
            (·.prepend [characterOfUnit half, characterOfUnit unit])
      | none =>
        if isHighSurrogate unit then readText start (position + 6) (some unit) rest
        else (readText start (position + 6) none rest).map (·.prepend [characterOfUnit unit])
  | position, _, '\\' :: 'u' :: _ => .error (.invalidUnitEscape, position + 1)
  | position, high, '\\' :: letter :: rest =>
    match escapedCharacter? letter with
    | none => .error (.invalidEscape, position)
    | some character =>
      (readText start (position + 2) none rest).map (·.prepend (unpaired high ++ [character]))
  | _, _, ['\\'] => .error (.unterminatedText, start)
  | position, high, character :: rest =>
    if character.toNat < 0x20 then .error (.controlCharacter, position)
    else (readText start (position + 1) none rest).map (·.prepend (unpaired high ++ [character]))

section

variable (start position : Nat) {rest : List Char}

/-- A character with a letter of its own is read from that. -/
theorem readText_letter {letter character : Char}
    (escape : escapedCharacter? letter = some character) :
    readText start position none ('\\' :: letter :: rest) =
      (readText start (position + 2) none rest).map (·.prepend [character]) := by
  have other : letter ≠ 'u' := by
    rintro rfl
    cases escape
  rw [readText]
  · rw [escape]
    rfl
  all_goals simp [other]

/-- A character that needs no escape is read as itself. -/
theorem readText_plain {character : Char} (noQuote : character ≠ '"')
    (noBackslash : character ≠ '\\') (printable : ¬character.toNat < 0x20) :
    readText start position none (character :: rest) =
      (readText start (position + 1) none rest).map (·.prepend [character]) := by
  rw [readText]
  · rw [if_neg printable]
    rfl
  all_goals simp [noQuote, noBackslash]

end

/-! ### Numbers -/

/-- The digits of the whole part of a number: a zero alone, or digits that start with another. -/
def wholeDigits : List Char → List Char
  | '0' :: _ => ['0']
  | rest => rest.takeWhile Text.isAsciiDigit

/-- The digits after a point, where there are any. -/
def fractionDigits : List Char → List Char
  | '.' :: rest => rest.takeWhile Text.isAsciiDigit
  | _ => []

/-- The sign and the digits of an exponent, where there are digits. -/
def exponentPart : List Char → Option (Bool × List Char × Nat)
  | mark :: rest =>
    if mark == 'e' || mark == 'E' then
      let (negative, unsignedRest) := Text.splitSign rest
      let digits := unsignedRest.takeWhile Text.isAsciiDigit
      if digits.isEmpty then none
      else some (negative, digits, 1 + (rest.length - unsignedRest.length) + digits.length)
    else none
  | [] => none

/-- A number without its sign, and how many characters it takes. It is an integer if it has
neither a fraction nor an exponent. -/
def readNumber? (negative : Bool) (characters : List Char) : Option (Token × Nat) :=
  let whole := wholeDigits characters
  if whole.isEmpty then none
  else
    let afterWhole := characters.drop whole.length
    let fraction := fractionDigits afterWhole
    let fractionLength := if fraction.isEmpty then 0 else fraction.length + 1
    let afterFraction := afterWhole.drop fractionLength
    match exponentPart afterFraction with
    | some (negativeExponent, digits, exponentLength) =>
      let magnitude : Int := Text.naturalOf digits
      let exponent := if negativeExponent then -magnitude else magnitude
      some (.scalar (.float (Binary64.ofParts negative whole fraction exponent)),
        whole.length + fractionLength + exponentLength)
    | none =>
      if !fraction.isEmpty then
        some (.scalar (.float (Binary64.ofParts negative whole fraction 0)),
          whole.length + fractionLength)
      else if Text.longestInteger < whole.length then some (.longInteger whole.length, whole.length)
      else
        let magnitude : Int := Text.naturalOf whole
        some (.scalar (.int (if negative then -magnitude else magnitude)), whole.length)

/-! ### Tokens -/

/-- The words that stand for a value. -/
def words : List (String × Scalar) := [
  ("null", .null),
  ("true", .bool true),
  ("false", .bool false),
  ("NaN", .float .notANumber),
  ("Infinity", .float (.infinite false)),
  ("-Infinity", .float (.infinite true))]

/-- The word at the start of a text. -/
def wordAt? (characters : List Char) : Option (Token × Nat) :=
  (words.find? fun word => word.1.toList.isPrefixOf characters).map fun word =>
    (.scalar word.2, word.1.length)

/-- The value at the start of a text that is neither a text nor a bracket. -/
def plainTokenAt (characters : List Char) : Token × Nat :=
  match wordAt? characters with
  | some found => found
  | none =>
    match characters with
    | '-' :: rest =>
      match readNumber? true rest with
      | some (token, length) => (token, length + 1)
      | none => (.foreign, 1)
    | rest => (readNumber? false rest).getD (.foreign, 1)

/-- The token that a character starts, and how many characters it takes. -/
def tokenAt (position : Nat) (character : Char) (rest : List Char) : Token × Nat :=
  match character with
  | '[' => (.openList, 1)
  | ']' => (.closeList, 1)
  | '{' => (.openMap, 1)
  | '}' => (.closeMap, 1)
  | ':' => (.colon, 1)
  | ',' => (.comma, 1)
  | '"' =>
    match readText position (position + 1) none rest with
    | .ok text => (.text (String.ofList text.characters), text.finish - position)
    | .error (complaint, place) => (.unreadable complaint place, rest.length + 1)
  | _ => plainTokenAt (character :: rest)

/-- The four blanks that may stand between tokens. -/
def isSpace (character : Char) : Bool :=
  character == ' ' || character == '\t' || character == '\n' || character == '\r'

/-- The tokens of a text with their positions. `skip` is the number of characters that still
belong to the token before. -/
def tokensFrom : (skip position : Nat) → List Char → List (Token × Nat)
  | _, _, [] => []
  | skip + 1, position, _ :: rest => tokensFrom skip (position + 1) rest
  | 0, position, character :: rest =>
    if isSpace character then tokensFrom 0 (position + 1) rest
    else
      let (token, length) := tokenAt position character rest
      (token, position) :: tokensFrom (length - 1) (position + 1) rest

/-- The tokens of a text. -/
def tokens (characters : List Char) : List (Token × Nat) :=
  tokensFrom 0 0 characters

end ClientModel.Json
