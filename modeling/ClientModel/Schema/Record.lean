/-
This file writes schemas as records: the annotations, a `kind` that tells the shape, and the parts
of that shape. Values that a document may hold freely are in plain form there; bounds are not, so
they keep what is not finite.
-/

import ClientModel.Schema.Node
import ClientModel.Value.Record

namespace ClientModel

/-! ### Annotations -/

/-- A free value that may be missing, in plain form. -/
def plainOf? (value : Option Value) : Value := (value.map Value.plain).getD .null

/-- The record of annotations. -/
def Annotations.record (notes : Annotations) : Value :=
  .record [
    ("description", .ofText? notes.description),
    ("type_tag", .ofText? notes.typeTag),
    ("has_default", .bool notes.defaultValue.isSome),
    ("default", plainOf? notes.defaultValue),
    ("has_example", .bool notes.exampleValue.isSome),
    ("example", plainOf? notes.exampleValue),
    ("enum_values", plainOf? (notes.enumValues.map .list)),
    ("has_const", .bool notes.constantValue.isSome),
    ("const", plainOf? notes.constantValue),
    ("format", .ofText? notes.format),
    ("minimum", (notes.minimum.map Bound.value).getD .null),
    ("maximum", (notes.maximum.map Bound.value).getD .null),
    ("min_length", .ofInt? notes.minLength),
    ("max_length", .ofInt? notes.maxLength),
    ("pattern", .ofText? notes.pattern),
    ("min_items", .ofInt? notes.minItems),
    ("max_items", .ofInt? notes.maxItems),
    ("nullable", .bool notes.nullable),
    ("read_only", .bool notes.readOnly),
    ("write_only", .bool notes.writeOnly)]

/-- The record of a discriminator. -/
def Discriminator.record (discriminator : Discriminator) : Value :=
  .record [
    ("property_name", .ofText? discriminator.propertyName),
    ("mapping", (discriminator.mapping.map fun mapping =>
      Value.record (mapping.map fun entry => (entry.1, .string entry.2))).getD .null)]

/-! ### Schemas -/

namespace SchemaNode

/-- The record of a schema of some kind. -/
def recordWith (notes : Annotations) (kind : String) (fields : List (String × Value)) : Value :=
  .record (("annotations", notes.record) :: ("kind", .string kind) :: fields)

mutual

/-- The record of a schema. -/
def record : SchemaNode → Value
  | .reference notes pointer => recordWith notes "reference" [("pointer", .string pointer)]
  | .primitive notes tag => recordWith notes "primitive" [("type", .string tag)]
  | .enumeration notes tag values =>
    recordWith notes "enum" [("base_type", .string tag), ("values", (Value.list values).plain)]
  | .constant notes value => recordWith notes "const" [("value", value.plain)]
  | .array notes items => recordWith notes "array" [("items", recordOf? items)]
  | .object notes none required additional =>
    recordWith notes "object" [("properties", .null), ("required", .ofTexts required),
      ("additional", recordOfAdditional additional)]
  | .object notes (some properties) required additional =>
    recordWith notes "object" [("properties", .record (recordsOfProperties properties)),
      ("required", .ofTexts required), ("additional", recordOfAdditional additional)]
  | .composition notes operator members discriminator =>
    recordWith notes "composition" [("operator", .string operator.keyword),
      ("members", .list (recordsOfMembers members)),
      ("discriminator", (discriminator.map Discriminator.record).getD .null)]
  | .typeList notes tags items values =>
    recordWith notes "type_array" [("types", .ofTexts tags), ("items", recordOf? items),
      ("enum_values", plainOf? (values.map .list))]
  | .unknown notes => recordWith notes "unknown" []

/-- The record of a schema that may be missing. -/
def recordOf? : Option SchemaNode → Value
  | none => .null
  | some node => node.record

/-- The record of what an object may hold beside its properties. -/
def recordOfAdditional : Additional → Value
  | .unspecified => .null
  | .allowed answer => .bool answer
  | .schema node => node.record

/-- The records of properties, each under its name. -/
def recordsOfProperties : List (String × SchemaNode) → List (String × Value)
  | [] => []
  | (name, node) :: rest => (name, node.record) :: recordsOfProperties rest

/-- The records of members. -/
def recordsOfMembers : List SchemaNode → List Value
  | [] => []
  | member :: rest => member.record :: recordsOfMembers rest

end

end SchemaNode

end ClientModel
