/-
This file reads the headers that are given on the command line, and fills the placeholders in the
values of headers.
-/

import ClientModel.Configuration.Placeholder
import ClientModel.Failure
import ClientModel.Text.Blank

namespace ClientModel

/-- Headers in the order in which their names were first given. -/
abbrev Headers := List (String × String)

namespace Headers

/-- Whether a character is not the colon after the name of a header. -/
def isNameCharacter (character : Char) : Bool := character != ':'

/-- The header that an option gives: a name that is not blank, a colon, and a value. -/
def ofOption (option : String) : Except UsageError (String × String) :=
  let name := Text.trim (option.toList.takeWhile isNameCharacter)
  match option.toList.dropWhile isNameCharacter with
  | [] => .error (.invalidHeader option)
  | _ :: value =>
    if name.isEmpty then .error (.invalidHeader option)
    else .ok (String.ofList name, String.ofList (Text.trim value))

/-- The headers that options give. A name that is given again takes the later value. -/
def ofOptions (options : List String) : Except UsageError Headers := do
  let headers ← options.mapM ofOption
  pure (Ordered.ofList headers)

/-- Headers with the placeholders in their values filled. -/
def fill (environment : Environment) (headers : Headers) : Headers :=
  headers.map fun header => (header.1, fillPlaceholders environment header.2)

end Headers

end ClientModel
