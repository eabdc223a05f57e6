/-
This file writes values as texts of messages and names. A text stands for itself there; inside a
list or a map it stands between quotes, and everything else is shown the way it would be written
down to be read again.
-/

import ClientModel.Binary64.Shortest
import ClientModel.Text.Quoted
import ClientModel.Value.Basic

namespace ClientModel

namespace Scalar

/-- A scalar inside a list or a map. -/
def shown : Scalar → String
  | .null => "None"
  | .bool value => if value then "True" else "False"
  | .int value => toString value
  | .float value => value.display
  | .string value => Text.quoted value
  | .date value => value.shown
  | .timestamp value => value.shown
  | .binary bytes => Text.quotedBytes bytes

/-- A scalar on its own. -/
def text : Scalar → String
  | .string value => value
  | .date value => value.text
  | .timestamp value => value.text " "
  | other => other.shown

end Scalar

namespace Value

/-- A list or a map inside itself. -/
def shownAgain (isMap : Bool) : String := if isMap then "\x7b...\x7d" else "[...]"

mutual

/-- A value inside a list or a map, inside knots of the given names. -/
def shownIn (knots : List Nat) : Value → String
  | .scalar content => content.shown
  | .list items => "[" ++ ", ".intercalate (shownItems knots items) ++ "]"
  | .map entries => "\x7b" ++ ", ".intercalate (shownEntries knots entries) ++ "\x7d"
  | .set members =>
    if members.isEmpty then "set()"
    else "\x7b" ++ ", ".intercalate (members.map Scalar.shown) ++ "\x7d"
  | .pair first second => "(" ++ shownIn knots first ++ ", " ++ shownIn knots second ++ ")"
  | .knot name body =>
    if knots.contains name then shownAgain (body.kindName == "dict")
    else shownIn (name :: knots) body
  | .again _ isMap => shownAgain isMap

/-- The items of a list, each as it is shown. -/
def shownItems (knots : List Nat) : List Value → List String
  | [] => []
  | item :: rest => shownIn knots item :: shownItems knots rest

/-- The entries of a map, each as its key, a colon and its item. -/
def shownEntries (knots : List Nat) : List (Scalar × Value) → List String
  | [] => []
  | (key, item) :: rest =>
    (key.shown ++ ": " ++ shownIn knots item) :: shownEntries knots rest

end

/-- A value inside a list or a map. -/
def shown (value : Value) : String := shownIn [] value

/-- A value on its own. -/
def text : Value → String
  | .scalar content => content.text
  | value => value.shown

end Value

end ClientModel
