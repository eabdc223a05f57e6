/-
This file reads schemas from values that may be a part of themselves. The knots of such a value are
opened at the places where schemas are read from it, and only there: what a schema holds freely
stays tied. The reading has no end where a schema would be a part of itself; every other value is
some schema. A value without knots is read as it is.
-/

import ClientModel.Schema.Parsing

namespace ClientModel

/-! ### Places -/

/-- What is read at a place: a schema, a list of schemas, or a map of them. -/
inductive SchemaPlace where
  | schema
  | members
  | properties
  deriving DecidableEq, Repr

/-- The keywords of the compositions. -/
def compositionKeywords : List String := ["anyOf", "oneOf", "allOf"]

/-- What is read under a keyword. -/
def SchemaPlace.ofKeyword (keyword : String) : SchemaPlace :=
  if compositionKeywords.contains keyword then .members
  else if keyword == "properties" then .properties
  else .schema

/-- The keywords under which the shape that the type names has schemas. -/
def shapeKeywords (entries : Entries) : List String :=
  let ofObject := ["properties", "additionalProperties"]
  match entries.get "type" with
  | .string tag =>
    if isEnumerable tag && (filledItems? (entries.get "enum")).isSome then []
    else if tag == "object" then ofObject
    else if tag == "array" then ["items"]
    else []
  | .null => if (entries.get "properties").entries?.isSome then ofObject else []
  | _ => []

/-- The keywords of a schema under which further schemas are read. -/
def schemaKeywords (entries : Entries) : List String :=
  if (entries.get "$ref").string?.isSome then []
  else
    match compositionKeywords.find? fun keyword => (entries.get keyword).items?.isSome with
    | some keyword => [keyword]
    | none =>
      if (entries.get "type").items?.isSome then ["items"]
      else if entries.has "const" then []
      else shapeKeywords entries

/-! ### Opening -/

/-- Opens what is read at a place; nothing where that takes more than so many steps. -/
def openPlace : (steps : Nat) → SchemaPlace → Value → Option Value
  | 0, _, _ => none
  | steps + 1, place, value =>
    match place, value.opened with
    | .schema, .map entries =>
      (entries.mapM fun (entry : Scalar × Value) =>
        match entry.1 with
        | .string keyword =>
          if (schemaKeywords entries).contains keyword then
            (openPlace steps (.ofKeyword keyword) entry.2).map (entry.1, ·)
          else some entry
        | _ => some entry).map .map
    | .properties, .map entries =>
      (entries.mapM fun (entry : Scalar × Value) =>
        (openPlace steps .schema entry.2).map (entry.1, ·)).map .map
    | .members, .list items => (items.mapM (openPlace steps .schema)).map .list
    | _, _ => some value

mutual

/-- How many parts a value has. -/
def Value.size : Value → Nat
  | .scalar _ => 1
  | .list items => 1 + sizeOfItems items
  | .map entries => 1 + sizeOfEntries entries
  | .set _ => 1
  | .pair first second => 1 + first.size + second.size
  | .knot _ body => body.size
  | .again _ _ => 0

/-- How many parts items have. -/
def sizeOfItems : List Value → Nat
  | [] => 0
  | item :: rest => item.size + sizeOfItems rest

/-- How many parts the items of entries have. -/
def sizeOfEntries : List (Scalar × Value) → Nat
  | [] => 0
  | (_, item) :: rest => item.size + sizeOfEntries rest

end

/-- The most steps that a reading with an end takes: it never comes to the same part in the same
place again. -/
def longestReading (value : Value) : Nat := 3 * value.size + 1

/-- The schema that a value writes; nothing where a schema would be a part of itself. -/
def readSchema? (value : Value) : Option SchemaNode :=
  if value.isUntied then some (parseSchema value)
  else (openPlace (longestReading value) .schema value).map parseSchema

/-- A value without knots is read as it is. -/
theorem readSchema?_of_isUntied {value : Value} (untied : value.isUntied = true) :
    readSchema? value = some (parseSchema value) := by
  simp [readSchema?, untied]

end ClientModel
