/-
This file defines the types of a client: what a schema resolves to. A reference to a declared type
stays a name, so types are finite trees even where declarations mention each other in a circle.
-/

import ClientModel.Documentation

namespace ClientModel

/-! ### Expressions -/

/-- The types that have no parts. -/
inductive PrimitiveKind where
  | string
  | number
  | integer
  | boolean
  | null
  deriving DecidableEq, Repr

/-- The name of a primitive type, in schemas and in type texts alike. -/
def PrimitiveKind.name : PrimitiveKind → String
  | .string => "string"
  | .number => "number"
  | .integer => "integer"
  | .boolean => "boolean"
  | .null => "null"

/-- All primitive types. -/
def PrimitiveKind.all : List PrimitiveKind := [.string, .number, .integer, .boolean, .null]

/-- The primitive type of a name. -/
def PrimitiveKind.ofName? (name : String) : Option PrimitiveKind :=
  PrimitiveKind.all.find? (·.name == name)

/-- What is known of a field beside its type: the key in the document, the accessor, whether it
may be missing, and its documentation. -/
structure FieldLabel where
  name : String
  identifier : String
  optional : Bool
  description : Option Description
  deriving DecidableEq, Repr

/-- A type. -/
inductive TypeExpr where
  | named (name : String)
  | primitive (kind : PrimitiveKind)
  | literal (value : Value)
  | array (items : TypeExpr)
  | mapping (values : TypeExpr)
  | object (fields : List (FieldLabel × TypeExpr))
  | union (members : List TypeExpr)
  | intersection (members : List TypeExpr)
  | nullable (inner : TypeExpr)
  | unknown
  | noContent
  deriving Inhabited

namespace TypeExpr

/-! ### References -/

mutual

/-- The declared types that a type mentions, in order, as often as it mentions them. -/
def references : TypeExpr → List String
  | .named name => [name]
  | .array items => items.references
  | .mapping values => values.references
  | .nullable inner => inner.references
  | .union members => referencesOfMembers members
  | .intersection members => referencesOfMembers members
  | .object fields => referencesOfFields fields
  | .primitive _ | .literal _ | .unknown | .noContent => []

/-- The declared types that the members mention. -/
def referencesOfMembers : List TypeExpr → List String
  | [] => []
  | member :: rest => member.references ++ referencesOfMembers rest

/-- The declared types that the fields mention. -/
def referencesOfFields : List (FieldLabel × TypeExpr) → List String
  | [] => []
  | (_, type) :: rest => type.references ++ referencesOfFields rest

end

/-- The references of members are those of each member in turn. -/
theorem referencesOfMembers_eq_flatMap (members : List TypeExpr) :
    referencesOfMembers members = members.flatMap references := by
  induction members with
  | nil => rfl
  | cons member rest inductionHypothesis => simp [referencesOfMembers, inductionHypothesis]

/-- The references of fields are those of each field's type in turn. -/
theorem referencesOfFields_eq_flatMap (fields : List (FieldLabel × TypeExpr)) :
    referencesOfFields fields = fields.flatMap fun field => field.2.references := by
  induction fields with
  | nil => rfl
  | cons field rest inductionHypothesis => simp [referencesOfFields, inductionHypothesis]

end TypeExpr

end ClientModel
