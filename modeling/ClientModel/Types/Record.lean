/-
This file writes types as records: a map whose `kind` tells which type it is, followed by the
parts of that type.
-/

import ClientModel.Types.Expression
import ClientModel.Value.Record

namespace ClientModel

/-- The record of a description. -/
def Description.record (description : Description) : Value :=
  .record [
    ("summary", .ofText? description.summary),
    ("constraints", .ofTexts description.constraints)]

/-- The record of a description that may be missing. -/
def Description.recordOf? (description : Option Description) : Value :=
  match description with
  | none => .null
  | some description => description.record

/-- The record of a field, given the record of its type. -/
def FieldLabel.record (label : FieldLabel) (type : Value) : Value :=
  .record [
    ("name", .string label.name),
    ("identifier", .string label.identifier),
    ("type", type),
    ("optional", .bool label.optional),
    ("description", Description.recordOf? label.description)]

namespace TypeExpr

/-- The tag of a type. -/
def tag : TypeExpr → String
  | .named _ => "named"
  | .primitive _ => "primitive"
  | .literal _ => "literal"
  | .array _ => "array"
  | .mapping _ => "mapping"
  | .object _ => "object"
  | .union _ => "union"
  | .intersection _ => "intersection"
  | .nullable _ => "nullable"
  | .unknown => "unknown"
  | .noContent => "no_content"

/-- A record with a tag. -/
def tagged (tag : String) (fields : List (String × Value)) : Value :=
  .record (("kind", .string tag) :: fields)

mutual

/-- The record of a type. -/
def record : TypeExpr → Value
  | .named name => tagged "named" [("name", .string name)]
  | .primitive kind => tagged "primitive" [("name", .string kind.name)]
  | .literal value => tagged "literal" [("value", value.plain)]
  | .array items => tagged "array" [("items", items.record)]
  | .mapping values => tagged "mapping" [("values", values.record)]
  | .object fields => tagged "object" [("fields", .list (recordsOfFields fields))]
  | .union members => tagged "union" [("members", .list (recordsOfMembers members))]
  | .intersection members =>
    tagged "intersection" [("members", .list (recordsOfMembers members))]
  | .nullable inner => tagged "nullable" [("inner", inner.record)]
  | .unknown => tagged "unknown" []
  | .noContent => tagged "no_content" []

/-- The records of members. -/
def recordsOfMembers : List TypeExpr → List Value
  | [] => []
  | member :: rest => member.record :: recordsOfMembers rest

/-- The records of fields. -/
def recordsOfFields : List (FieldLabel × TypeExpr) → List Value
  | [] => []
  | (label, type) :: rest => label.record type.record :: recordsOfFields rest

end

end TypeExpr

end ClientModel
