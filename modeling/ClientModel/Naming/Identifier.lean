/-
This file turns the names of a document into identifiers that generated code can use. The name of
a schema becomes a type identifier, the key of a property an accessor, and the id of an operation
a path of namespaces with a method name at its end. Each transform is a chain of small passes
over the characters of a name.
-/

import ClientModel.Text.Blank
import ClientModel.Text.Digit
import ClientModel.Text.Split

namespace ClientModel.Naming

/-! ### Classes of characters -/

/-- An ASCII letter in lower case. -/
def isLowerLetter (character : Char) : Bool := 'a' ≤ character && character ≤ 'z'

/-- An ASCII letter in upper case. -/
def isUpperLetter (character : Char) : Bool := 'A' ≤ character && character ≤ 'Z'

/-- An ASCII letter. -/
def isLetter (character : Char) : Bool := isLowerLetter character || isUpperLetter character

/-- An ASCII letter or digit. -/
def isAlphanumeric (character : Char) : Bool := isLetter character || Text.isAsciiDigit character

/-- The upper case of an ASCII letter; any other character as it is. -/
def upperLetter (character : Char) : Char :=
  if isLowerLetter character then Char.ofNat (character.toNat - 32) else character

/-- The lower case of an ASCII letter; any other character as it is. -/
def lowerLetter (character : Char) : Char :=
  if isUpperLetter character then Char.ofNat (character.toNat + 32) else character

/-- A word of a class of first characters and a class of further ones, at least one character
long. One line break may follow it. -/
def isWordOf (first further : Char → Bool) (characters : List Char) : Bool :=
  let word := if characters.getLast? == some '\n' then characters.dropLast else characters
  match word with
  | [] => false
  | character :: rest => first character && rest.all further

/-! ### Type identifiers -/

/-- The two marks that separate the words of a schema name. -/
def isSeparator (character : Char) : Bool := character == '-' || character == '_'

/-- Drops a separator in front of a letter or digit, and raises the letter. A character that was
taken with the separator before it separates nothing itself. -/
def raiseAfterSeparators : List Char → List Char
  | [] => []
  | [character] => [character]
  | separator :: character :: rest =>
    if isSeparator separator && isAlphanumeric character then
      upperLetter character :: raiseAfterSeparators rest
    else separator :: raiseAfterSeparators (character :: rest)

/-- Raises the first character. -/
def raiseFirst : List Char → List Char
  | [] => []
  | character :: rest => upperLetter character :: rest

/-- Puts an underscore in front of a digit of any script, since no identifier starts with one. -/
def guardDigit : List Char → List Char
  | [] => []
  | character :: rest =>
    if Text.isDigit character then '_' :: character :: rest else character :: rest

/-- The type identifier of a schema name: the words run together, each with a capital. -/
def typeCharacters (characters : List Char) : List Char :=
  guardDigit (raiseFirst ((raiseAfterSeparators characters).filter (!isSeparator ·)))

/-- `typeCharacters` on strings. -/
def typeIdentifier (raw : String) : String :=
  String.ofList (typeCharacters raw.toList)

/-! ### Property identifiers -/

/-- What may start a bare accessor. -/
def isBareStart (character : Char) : Bool :=
  isLetter character || character == '_' || character == '$'

/-- What may continue a bare accessor. -/
def isBareFurther (character : Char) : Bool :=
  isBareStart character || Text.isAsciiDigit character

/-- A name that needs no quotes. -/
def isBareName (characters : List Char) : Bool :=
  isWordOf isBareStart isBareFurther characters

/-- The apostrophe. -/
def apostrophe : Char := '\x27'

/-- A name without the matching quotes around it. -/
def withoutQuotes (characters : List Char) : List Char :=
  match characters with
  | first :: second :: rest =>
    if (first == apostrophe || first == '"') && (second :: rest).getLast? == some first then
      (second :: rest).dropLast
    else characters
  | _ => characters

/-- The accessor of a property: the name itself if it is bare, else the name between quotes.
Blanks and quotes that are already around it are not part of the name. -/
def propertyCharacters (characters : List Char) : List Char :=
  let name := withoutQuotes (Text.trim characters)
  if isBareName name then name else apostrophe :: name ++ [apostrophe]

/-- `propertyCharacters` on strings. -/
def propertyIdentifier (raw : String) : String :=
  String.ofList (propertyCharacters raw.toList)

/-! ### Method identifiers -/

/-- Puts an underscore for every character that is no letter or digit. -/
def markSeparators (characters : List Char) : List Char :=
  characters.map fun character => if isAlphanumeric character then character else '_'

/-- Keeps one underscore of each run. -/
def collapseRuns : List Char → List Char
  | [] => []
  | [character] => [character]
  | first :: second :: rest =>
    if first == '_' && second == '_' then collapseRuns (second :: rest)
    else first :: collapseRuns (second :: rest)

/-- Removes the underscores at both ends. -/
def withoutOuterMarks (characters : List Char) : List Char :=
  ((characters.dropWhile (· == '_')).reverse.dropWhile (· == '_')).reverse

/-- Drops an underscore in front of a letter in lower case, and raises the letter. -/
def raiseAfterMarks : List Char → List Char
  | [] => []
  | [character] => [character]
  | mark :: character :: rest =>
    if mark == '_' && isLowerLetter character then upperLetter character :: raiseAfterMarks rest
    else mark :: raiseAfterMarks (character :: rest)

/-- Lowers the first character. -/
def lowerFirst : List Char → List Char
  | [] => []
  | character :: rest => lowerLetter character :: rest

/-- The method identifier of a text: its words run together, each but the first with a
capital. -/
def methodCharacters (characters : List Char) : List Char :=
  lowerFirst (raiseAfterMarks (withoutOuterMarks (collapseRuns (markSeparators characters))))

/-- `methodCharacters` on strings. -/
def methodIdentifier (raw : String) : String :=
  String.ofList (methodCharacters raw.toList)

/-! ### Namespace paths -/

/-- Where a call lives: the namespaces that lead to it and the name of its method. -/
structure CallPath where
  segments : List String
  methodName : String
  deriving DecidableEq, Repr

/-- A part of an operation id that can name a namespace: a letter, then letters and digits. -/
def isCleanSegment (characters : List Char) : Bool :=
  isWordOf isLetter isAlphanumeric characters

/-- Takes parts from the front as long as they are clean and another part follows. -/
def takeSegments : List (List Char) → List (List Char) × List (List Char)
  | [] => ([], [])
  | [last] => ([], [last])
  | part :: next :: rest =>
    if isCleanSegment part then
      let (segments, remaining) := takeSegments (next :: rest)
      (part :: segments, remaining)
    else ([], part :: next :: rest)

/-- Takes namespaces off an operation id at one separator. -/
def takeAt (separator : Char) (characters : List Char) : List (List Char) × List Char :=
  let (segments, remaining) := takeSegments (Text.splitOn separator characters)
  (segments, Text.joinWith separator remaining)

/-- The namespaces of an operation id and what remains for the method name. Slashes separate as
long as there is one; dots only where no slash remains. -/
def splitOperationId (characters : List Char) : List (List Char) × List Char :=
  let (segments, remainder) := takeAt '/' characters
  if remainder.contains '/' then (segments, remainder)
  else
    let (further, remainder) := takeAt '.' remainder
    (segments ++ further, remainder)

/-- The namespaces of an operation id, and the text its method is named for. -/
def splitCall (operationId : String) : List String × String :=
  let (segments, remainder) := splitOperationId operationId.toList
  (segments.map String.ofList, String.ofList remainder)

/-- The path of an operation id. -/
def callPath (operationId : String) : CallPath :=
  let (segments, remainder) := splitCall operationId
  ⟨segments, methodIdentifier remainder⟩

end ClientModel.Naming
