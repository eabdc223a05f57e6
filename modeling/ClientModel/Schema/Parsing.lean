/-
This file reads a schema from the value that a document has in its place. The keywords are
looked at in a fixed order: a reference, the three compositions, a list of types, a constant, and
then the shape that the type names. A keyword whose value has the wrong kind counts as absent, so
every value is some schema.
-/

import ClientModel.Schema.Node

namespace ClientModel

/-! ### Annotations -/

/-- A number, but not a truth value. -/
def boundOf : Value → Option Bound
  | .int value => some (.whole value)
  | .float value => some (.real value)
  | _ => none

/-- An integer, but not a truth value. -/
def countOf : Value → Option Int
  | .int value => some value
  | _ => none

/-- A list that is not empty. -/
def filledItems? (value : Value) : Option (List Value) :=
  match value.items? with
  | some (item :: rest) => some (item :: rest)
  | _ => none

/-- The type keyword as documentation shows it: a list is joined by commas. -/
def typeTagOf (value : Value) : Option String :=
  match value.items? with
  | some items => some (",".intercalate (items.map Value.text))
  | none => value.filledString?

/-- The pattern keyword as documentation shows it, whatever its kind. -/
def patternOf : Value → Option String
  | .null => none
  | .string text => if text.isEmpty then none else some text
  | value => some value.text

/-- The annotations among the keywords of a schema. -/
def Annotations.ofEntries (entries : Entries) : Annotations where
  description := (entries.get "description").filledString?
  typeTag := typeTagOf (entries.get "type")
  defaultValue := entries.get? "default"
  exampleValue := entries.get? "example"
  enumValues := filledItems? (entries.get "enum")
  constantValue := entries.get? "const"
  format := (entries.get "format").filledString?
  minimum := boundOf (entries.get "minimum")
  maximum := boundOf (entries.get "maximum")
  minLength := countOf (entries.get "minLength")
  maxLength := countOf (entries.get "maxLength")
  pattern := patternOf (entries.get "pattern")
  minItems := countOf (entries.get "minItems")
  maxItems := countOf (entries.get "maxItems")
  nullable := (entries.get "nullable").isTrue
  readOnly := (entries.get "readOnly").isTrue
  writeOnly := (entries.get "writeOnly").isTrue

/-! ### Keywords without schemas in them -/

/-- The discriminator keyword. Keys and items of the mapping count by their texts. -/
def Discriminator.ofValue (value : Value) : Option Discriminator :=
  value.entries?.map fun entries =>
    { propertyName := (entries.get "propertyName").string?
      mapping := (entries.get "mapping").entries?.map fun mapping =>
        Ordered.ofList (mapping.map fun entry => (entry.1.text, entry.2.text)) }

/-- The texts in a list. -/
def textsIn (value : Value) : List String :=
  value.itemsOrEmpty.filterMap Value.string?

/-- The types whose listed values are a choice of literals. -/
def isEnumerable (tag : String) : Bool :=
  tag == "string" || tag == "number" || tag == "integer"

/-! ### Shapes -/

/-- The parts of a schema that are schemas themselves. -/
structure SubSchemas where
  properties : Option (List (String × SchemaNode))
  items : Option SchemaNode
  additional : Additional

/-- The shape that the type keyword names, where neither a reference nor a composition, a list of
types or a constant comes first. Properties make an object of a schema without a type. -/
def baseShape (notes : Annotations) (entries : Entries) (parts : SubSchemas) : SchemaNode :=
  let object := .object notes parts.properties (textsIn (entries.get "required")) parts.additional
  match entries.get "type" with
  | .string tag =>
    match isEnumerable tag, filledItems? (entries.get "enum") with
    | true, some values => .enumeration notes tag values
    | _, _ =>
      if tag == "object" then object
      else if tag == "array" then .array notes parts.items
      else if tag.isEmpty then .unknown notes
      else .primitive notes tag
  | .null => if parts.properties.isSome then object else .unknown notes
  | _ => .unknown notes

mutual

/-- The schema that a value writes. -/
def parseSchema : Value → SchemaNode
  | .map entries =>
    let notes := Annotations.ofEntries entries
    let discriminator := Discriminator.ofValue (Entries.get "discriminator" entries)
    match Entries.get "$ref" entries with
    | .string pointer => .reference notes pointer
    | _ =>
      match membersUnder "anyOf" entries, membersUnder "oneOf" entries,
          membersUnder "allOf" entries with
      | some members, _, _ => .composition notes .anyOf members discriminator
      | none, some members, _ => .composition notes .oneOf members discriminator
      | none, none, some members => .composition notes .allOf members discriminator
      | none, none, none =>
        match (Entries.get "type" entries).items?, Entries.get? "const" entries with
        | some tags, _ => .typeList notes (tags.map Value.text) (schemaUnder "items" entries)
            (filledItems? (Entries.get "enum" entries))
        | _, some value => .constant notes value
        | _, none => baseShape notes entries
            ⟨propertiesUnder "properties" entries, schemaUnder "items" entries,
              additionalUnder "additionalProperties" entries⟩
  | _ => .unknown {}

/-- The schemas of a list. -/
def parseMembers : List Value → List SchemaNode
  | [] => []
  | item :: rest => parseSchema item :: parseMembers rest

/-- The schemas of a map, each under the text of its key. -/
def parseProperties : List (Scalar × Value) → List (String × SchemaNode)
  | [] => []
  | (key, item) :: rest => (key.text, parseSchema item) :: parseProperties rest

/-- The schema under a key, where a map stands there. -/
def schemaUnder (key : String) : List (Scalar × Value) → Option SchemaNode
  | [] => none
  | (key', item) :: rest =>
    if key' == .string key then
      match item with
      | .map entries => some (parseSchema (.map entries))
      | _ => none
    else schemaUnder key rest

/-- The schemas under a key, where a list stands there. -/
def membersUnder (key : String) : List (Scalar × Value) → Option (List SchemaNode)
  | [] => none
  | (key', item) :: rest =>
    if key' == .string key then
      match item with
      | .list items => some (parseMembers items)
      | _ => none
    else membersUnder key rest

/-- The named schemas under a key, where a map stands there. -/
def propertiesUnder (key : String) :
    List (Scalar × Value) → Option (List (String × SchemaNode))
  | [] => none
  | (key', item) :: rest =>
    if key' == .string key then
      match item with
      | .map entries => some (Ordered.ofList (parseProperties entries))
      | _ => none
    else propertiesUnder key rest

/-- What an object may hold beside its properties, as the item under a key says it. -/
def additionalUnder (key : String) : List (Scalar × Value) → Additional
  | [] => .unspecified
  | (key', item) :: rest =>
    if key' == .string key then
      match item with
      | .bool answer => .allowed answer
      | .map entries => .schema (parseSchema (.map entries))
      | _ => .unspecified
    else additionalUnder key rest

end

end ClientModel
