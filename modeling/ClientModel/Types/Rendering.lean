/-
This file writes a type in the compact notation of listings: `|` between alternatives, `&`
between parts, brackets after the items of an array.
-/

import ClientModel.Types.Expression

namespace ClientModel.TypeExpr

/-- A text in parentheses. -/
def parenthesized (text : String) : String := s!"({text})"

/-- The text of an array, given the text of its items: a text with a space in it is enclosed. -/
def arrayText (items : String) : String :=
  (if items.contains ' ' then parenthesized items else items) ++ "[]"

/-- The text of a field, given the text of its type. -/
def fieldText (label : FieldLabel) (type : String) : String :=
  label.identifier ++ (if label.optional then "?" else "") ++ ": " ++ type

mutual

/-- The text of a type. -/
def render : TypeExpr → String
  | .named name => name
  | .primitive kind => kind.name
  | .literal value => Json.write Json.literalStyle value
  | .array items => arrayText items.render
  | .mapping values => "map<" ++ values.render ++ ">"
  | .union members => " | ".intercalate (renderMembers members)
  | .intersection members => " & ".intercalate (renderParts members)
  | .nullable inner => inner.render ++ " | null"
  | .object fields => "\x7b" ++ ", ".intercalate (renderFields fields) ++ "\x7d"
  | .noContent => "void"
  | .unknown => "unknown"

/-- The texts of alternatives. -/
def renderMembers : List TypeExpr → List String
  | [] => []
  | member :: rest => member.render :: renderMembers rest

/-- The texts of parts: a union is enclosed. -/
def renderParts : List TypeExpr → List String
  | [] => []
  | .union members :: rest =>
    parenthesized (" | ".intercalate (renderMembers members)) :: renderParts rest
  | member :: rest => member.render :: renderParts rest

/-- The texts of fields. -/
def renderFields : List (FieldLabel × TypeExpr) → List String
  | [] => []
  | (label, type) :: rest => fieldText label type.render :: renderFields rest

end

theorem render_array (items : TypeExpr) : (array items).render = arrayText items.render := rfl

theorem render_mapping (values : TypeExpr) :
    (mapping values).render = "map<" ++ values.render ++ ">" := rfl

theorem render_nullable (inner : TypeExpr) : (nullable inner).render = inner.render ++ " | null" :=
  rfl

mutual

/-- The first literal of a type, in the order of writing, that has no text. -/
def unrenderable? : TypeExpr → Option Json.Unwritable
  | .literal value => Json.unwritable? value
  | .array items => items.unrenderable?
  | .mapping values => values.unrenderable?
  | .nullable inner => inner.unrenderable?
  | .union members => unrenderableMember? members
  | .intersection members => unrenderableMember? members
  | .object fields => unrenderableField? fields
  | .named _ | .primitive _ | .unknown | .noContent => none

/-- `unrenderable?` of members. -/
def unrenderableMember? : List TypeExpr → Option Json.Unwritable
  | [] => none
  | member :: rest =>
    match member.unrenderable? with
    | some found => some found
    | none => unrenderableMember? rest

/-- `unrenderable?` of fields. -/
def unrenderableField? : List (FieldLabel × TypeExpr) → Option Json.Unwritable
  | [] => none
  | (_, type) :: rest =>
    match type.unrenderable? with
    | some found => some found
    | none => unrenderableField? rest

end

/-- The text of a type, where each of its literals has one. -/
def render? (type : TypeExpr) : Except Json.Unwritable String :=
  match type.unrenderable? with
  | some found => .error found
  | none => .ok type.render

end ClientModel.TypeExpr
