/-
This file reads types back from records. The tag tells which parts are wanted; parts that no type
of that tag has are ignored, and all issues of all parts are reported together.
-/

import ClientModel.Types.Record
import ClientModel.Validation

namespace ClientModel

open Checked

/-- A description: a record whose fields may all be missing. -/
def Description.check : Value → Checked Description :=
  Check.recordOf fun fields =>
    (both (Check.withDefault "summary" none Check.optionalText fields)
      (Check.withDefault "constraints" [] (Check.listOf Check.text) fields)).map
      fun found => ⟨found.1, found.2⟩

/-- A description or null. -/
def Description.checkOptional : Value → Checked (Option Description)
  | .null => .ok none
  | value => (Description.check value).map some

/-- The name of a primitive type. -/
def PrimitiveKind.check : Value → Checked PrimitiveKind
  | .string name =>
    match PrimitiveKind.ofName? name with
    | some kind => .ok kind
    | none => fail .choice
  | _ => fail .choice

namespace TypeExpr

/-- A field, given its parts and the outcome of checking its type, in the order of the fields. -/
def fieldOf (fields : Entries) (type : Checked TypeExpr) : Checked (FieldLabel × TypeExpr) :=
  let head := both (Check.required "name" Check.text fields)
    (Check.required "identifier" Check.text fields)
  let tail := both (Check.withDefault "optional" false Check.truth fields)
    (Check.withDefault "description" none Description.checkOptional fields)
  (both head (both type tail)).map fun found =>
    (⟨found.1.1, found.1.2, found.2.2.1, found.2.2.2⟩, found.2.1)

/-- The tag of a record, if it has one and it is a text. -/
def tagOf (fields : Entries) : Checked String :=
  match fields.get? "kind" with
  | none => fail .tagMissing
  | some (.string tag) => .ok tag
  | some _ => fail .tagUnknown

mutual

/-- The type that a record writes. -/
def check : Value → Checked TypeExpr
  | .map fields =>
    match tagOf fields with
    | .error issues => .error issues
    | .ok tag =>
      let part := within (.field tag)
      match tag with
      | "named" => part ((Check.required "name" Check.text fields).map .named)
      | "primitive" => part ((Check.required "name" PrimitiveKind.check fields).map .primitive)
      | "literal" => part ((Check.required "value" Except.ok fields).map .literal)
      | "array" => part ((within (.field "items") (checkUnder "items" fields)).map .array)
      | "mapping" => part ((within (.field "values") (checkUnder "values" fields)).map .mapping)
      | "nullable" => part ((within (.field "inner") (checkUnder "inner" fields)).map .nullable)
      | "union" =>
        part ((within (.field "members") (checkMembersUnder "members" fields)).map .union)
      | "intersection" =>
        part ((within (.field "members") (checkMembersUnder "members" fields)).map .intersection)
      | "object" =>
        part ((within (.field "fields") (checkFieldsUnder "fields" fields)).map .object)
      | "unknown" => .ok .unknown
      | "no_content" => .ok .noContent
      | _ => fail .tagUnknown
  | _ => fail .tagged

/-- The type under a key. -/
def checkUnder (key : String) : List (Scalar × Value) → Checked TypeExpr
  | [] => fail .missing
  | (key', item) :: rest => if key' == .string key then check item else checkUnder key rest

/-- The types in the list under a key. -/
def checkMembersUnder (key : String) : List (Scalar × Value) → Checked (List TypeExpr)
  | [] => fail .missing
  | (key', item) :: rest =>
    if key' == .string key then
      match item with
      | .list items => all (checkMembers 0 items)
      | _ => fail .list
    else checkMembersUnder key rest

/-- The types in a list. -/
def checkMembers : Nat → List Value → List (Checked TypeExpr)
  | _, [] => []
  | position, item :: rest =>
    within (.item position) (check item) :: checkMembers (position + 1) rest

/-- The fields in the list under a key; without the key there are none. -/
def checkFieldsUnder (key : String) :
    List (Scalar × Value) → Checked (List (FieldLabel × TypeExpr))
  | [] => .ok []
  | (key', item) :: rest =>
    if key' == .string key then
      match item with
      | .list items => all (checkFields 0 items)
      | _ => fail .list
    else checkFieldsUnder key rest

/-- The fields in a list. -/
def checkFields : Nat → List Value → List (Checked (FieldLabel × TypeExpr))
  | _, [] => []
  | position, .map fields :: rest =>
    within (.item position) (fieldOf fields (within (.field "type") (checkUnder "type" fields))) ::
      checkFields (position + 1) rest
  | position, _ :: rest => within (.item position) (fail .record) :: checkFields (position + 1) rest

end

end TypeExpr

end ClientModel
