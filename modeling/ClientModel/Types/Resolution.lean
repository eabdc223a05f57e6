/-
This file resolves schemas to types. A reference becomes the name of a declared type and is not
followed; a composition becomes a union or an intersection of its members; a list of types a union
with one member for each; a constant a literal. Any other schema has the type its shape says, and
only such a type is made nullable by the schema's own flag.
-/

import ClientModel.Assembly.Basic
import ClientModel.Text.Split
import ClientModel.Types.Expression

namespace ClientModel

/-! ### Names behind references -/

/-- The schema a pointer names: its last segment. -/
def targetOf (pointer : String) : String :=
  String.ofList (Text.lastPart '/' pointer.toList)

/-- The schema an entry of a discriminator's mapping names: the last segment of an internal
pointer, else the key itself. -/
def mappedTarget (key pointer : String) : String :=
  if ['#', '/'].isPrefixOf pointer.toList then targetOf pointer else key

/-! ### Types without sub-schemas -/

/-- A union of literals. -/
def literalUnion (values : List Value) : TypeExpr := .union (values.map .literal)

/-- The type of a primitive schema; a name that is no primitive type says nothing. -/
def primitiveType (tag : String) : TypeExpr :=
  match PrimitiveKind.ofName? tag with
  | some kind => .primitive kind
  | none => .unknown

/-- The type of one name in a list of types, given the type of the items. -/
def tagType (values : Option (List Value)) (items : TypeExpr) (tag : String) : TypeExpr :=
  match tag == "string", values with
  | true, some values => literalUnion values
  | _, _ =>
    if tag == "array" then .array items
    else if tag == "object" then .mapping .unknown
    else primitiveType tag

/-- The object whose one field tells the member apart. -/
def tagObject (propertyName identifier key : String) : TypeExpr :=
  .object [(⟨propertyName, identifier, false, none⟩, .literal (.string key))]

/-- The members of a union that one property tells apart, one for each entry of the mapping. -/
def discriminatedMembers (propertyName identifier : String) :
    List (String × String) → Assembly (List TypeExpr)
  | [] => pure []
  | (key, pointer) :: rest => do
    let target ← Assembly.askType (mappedTarget key pointer)
    let members ← discriminatedMembers propertyName identifier rest
    pure (.intersection [.named target, tagObject propertyName identifier key] :: members)

/-- The property name and mapping of a discriminator that has both. -/
def Discriminator.usable? : Option Discriminator → Option (String × List (String × String))
  | some ⟨some propertyName, some mapping⟩ =>
    if propertyName.isEmpty || mapping.isEmpty then none else some (propertyName, mapping)
  | _ => none

/-- A type that its schema may declare nullable. -/
def nullableIf (notes : Annotations) (type : TypeExpr) : TypeExpr :=
  if notes.nullable then .nullable type else type

/-- The types of a list of type names, given how the items are resolved: anew for each array. -/
def tagTypes (values : Option (List Value)) (items : Assembly TypeExpr) :
    List String → Assembly (List TypeExpr)
  | [] => pure []
  | tag :: rest => do
    let itemType ← if tag == "array" then items else pure .unknown
    let types ← tagTypes values items rest
    pure (tagType values itemType tag :: types)

/-! ### Schemas -/

mutual

/-- The type of a schema. -/
def resolve : SchemaNode → Assembly TypeExpr
  | .reference _ pointer => do
    let name ← Assembly.askType (targetOf pointer)
    pure (.named name)
  | .composition _ operator members discriminator =>
    match operator, Discriminator.usable? discriminator with
    | .oneOf, some (propertyName, mapping) => do
      let identifier ← Assembly.askProperty propertyName
      let variants ← discriminatedMembers propertyName identifier mapping
      pure (.union variants)
    | .allOf, _ => do
      let types ← resolveMembers members
      pure (.intersection types)
    | _, _ => do
      let types ← resolveMembers members
      pure (.union types)
  | .typeList _ tags none values => pure (.union (tags.map (tagType values .unknown)))
  | .typeList _ tags (some items) values => do
    let types ← tagTypes values (resolve items) tags
    pure (.union types)
  | .constant _ value => pure (.literal value)
  | .object notes (some properties) required _ => do
    let fields ← resolveProperties required properties
    pure (nullableIf notes (.object fields))
  | .object notes none _ (.schema node) => do
    let values ← resolve node
    pure (nullableIf notes (.mapping values))
  | .object notes none _ _ => pure (nullableIf notes (.mapping .unknown))
  | .array notes (some items) => do
    let itemType ← resolve items
    pure (nullableIf notes (.array itemType))
  | .array notes none => pure (nullableIf notes (.array .unknown))
  | .enumeration notes _ values => pure (nullableIf notes (literalUnion values))
  | .primitive notes tag => pure (nullableIf notes (primitiveType tag))
  | .unknown notes => pure (nullableIf notes .unknown)

/-- The types of the members of a composition. -/
def resolveMembers : List SchemaNode → Assembly (List TypeExpr)
  | [] => pure []
  | member :: rest => do
    let type ← resolve member
    let types ← resolveMembers rest
    pure (type :: types)

/-- The fields of an object, in the order of its properties. -/
def resolveProperties (required : List String) :
    List (String × SchemaNode) → Assembly (List (FieldLabel × TypeExpr))
  | [] => pure []
  | (name, node) :: rest => do
    let identifier ← Assembly.askProperty name
    let type ← resolve node
    let description ← Assembly.ofExcept (describe node.notes (some name))
    let fields ← resolveProperties required rest
    pure ((⟨name, identifier, !required.contains name, description⟩, type) :: fields)

end

/-- The type of a schema that may be missing. -/
def resolveOptional : Option SchemaNode → Assembly TypeExpr
  | none => pure .unknown
  | some node => resolve node

end ClientModel
