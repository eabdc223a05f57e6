/-
This file defines the schemas of a document. A schema has exactly one shape, chosen when it is
read, and carries the annotations that document it. A reference to another schema stays a
reference, so schemas that mention each other in a circle are still finite trees.
-/

import ClientModel.Value.Display

namespace ClientModel

/-! ### Annotations -/

/-- A number that bounds a value, kept as it was written. -/
inductive Bound where
  | whole (value : Int)
  | real (value : Binary64)
  deriving DecidableEq, Repr

/-- The value of a bound. -/
def Bound.value : Bound → Value
  | .whole number => .int number
  | .real number => .float number

/-- What a schema says about its values beside their shape. A default, an example and a constant
are present even where they are null. -/
structure Annotations where
  description : Option String := none
  typeTag : Option String := none
  defaultValue : Option Value := none
  exampleValue : Option Value := none
  enumValues : Option (List Value) := none
  constantValue : Option Value := none
  format : Option String := none
  minimum : Option Bound := none
  maximum : Option Bound := none
  minLength : Option Int := none
  maxLength : Option Int := none
  pattern : Option String := none
  minItems : Option Int := none
  maxItems : Option Int := none
  nullable : Bool := false
  readOnly : Bool := false
  writeOnly : Bool := false
  deriving Repr, Inhabited

/-! ### Shapes -/

/-- How a composition combines its members. -/
inductive Operator where
  | anyOf
  | oneOf
  | allOf
  deriving DecidableEq, Repr

/-- The keyword of an operator. -/
def Operator.keyword : Operator → String
  | .anyOf => "anyOf"
  | .oneOf => "oneOf"
  | .allOf => "allOf"

/-- How the value of one property tells which member a value belongs to. -/
structure Discriminator where
  propertyName : Option String
  mapping : Option (List (String × String))
  deriving DecidableEq, Repr

mutual

/-- A schema: its annotations and its shape. -/
inductive SchemaNode where
  | reference (notes : Annotations) (pointer : String)
  | primitive (notes : Annotations) (tag : String)
  | enumeration (notes : Annotations) (tag : String) (values : List Value)
  | constant (notes : Annotations) (value : Value)
  | array (notes : Annotations) (items : Option SchemaNode)
  | object (notes : Annotations) (properties : Option (List (String × SchemaNode)))
      (required : List String) (additional : Additional)
  | composition (notes : Annotations) (operator : Operator) (members : List SchemaNode)
      (discriminator : Option Discriminator)
  | typeList (notes : Annotations) (tags : List String) (items : Option SchemaNode)
      (values : Option (List Value))
  | unknown (notes : Annotations)

/-- What an object may hold beside its properties. -/
inductive Additional where
  | unspecified
  | allowed (answer : Bool)
  | schema (node : SchemaNode)

end

instance : Inhabited SchemaNode := ⟨.unknown {}⟩

namespace SchemaNode

/-- The annotations of a schema. -/
def notes : SchemaNode → Annotations
  | .reference notes _ => notes
  | .primitive notes _ => notes
  | .enumeration notes _ _ => notes
  | .constant notes _ => notes
  | .array notes _ => notes
  | .object notes _ _ _ => notes
  | .composition notes _ _ _ => notes
  | .typeList notes _ _ _ => notes
  | .unknown notes => notes

end SchemaNode

end ClientModel
