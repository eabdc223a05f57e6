/-
This file says of what types consist. A type has parts: the items of an array, the members of a
union, the types of the fields of an object; it contains itself, its parts, and whatever these
contain. The main statement is the induction that goes with this: what holds of a type as soon as
it holds of its parts holds of every type.
-/

import ClientModel.Types.Expression
import Mathlib.Logic.Relation

namespace ClientModel.TypeExpr

/-! ### Parts -/

/-- The types of which a type is put together. -/
def parts : TypeExpr → List TypeExpr
  | .array items => [items]
  | .mapping values => [values]
  | .nullable inner => [inner]
  | .union members => members
  | .intersection members => members
  | .object fields => fields.map Prod.snd
  | .named _ | .primitive _ | .literal _ | .unknown | .noContent => []

/-- A type contains another: itself, or what one of its parts contains. -/
def Contains : TypeExpr → TypeExpr → Prop :=
  Relation.ReflTransGen fun whole part => part ∈ whole.parts

theorem Contains.refl (type : TypeExpr) : type.Contains type := Relation.ReflTransGen.refl

theorem Contains.of_mem_parts {whole part : TypeExpr} (member : part ∈ whole.parts) :
    whole.Contains part :=
  Relation.ReflTransGen.single member

theorem Contains.trans {outer middle inner : TypeExpr} (first : outer.Contains middle)
    (second : middle.Contains inner) : outer.Contains inner :=
  Relation.ReflTransGen.trans first second

/-- What a type contains is the type itself or is in one of its parts. -/
theorem Contains.same_or_in_part {outer inner : TypeExpr} (contained : outer.Contains inner) :
    outer = inner ∨ ∃ part ∈ outer.parts, part.Contains inner :=
  Relation.ReflTransGen.cases_head contained

/-- What holds of all that a type contains holds of the type and of all that its parts contain. -/
theorem forall_contains_iff {holds : TypeExpr → Prop} (type : TypeExpr) :
    (∀ inner, type.Contains inner → holds inner) ↔
      holds type ∧ ∀ part ∈ type.parts, ∀ inner, part.Contains inner → holds inner := by
  constructor
  · intro all
    exact ⟨all type (.refl type), fun part member inner contained =>
      all inner (.trans (.of_mem_parts member) contained)⟩
  · rintro ⟨here, further⟩ inner contained
    rcases contained.same_or_in_part with rfl | ⟨part, member, contained⟩
    · exact here
    · exact further part member inner contained

/-! ### Induction -/

mutual

/-- What holds of a type as soon as it holds of its parts holds of every type. -/
theorem inductionOnParts {motive : TypeExpr → Prop}
    (step : ∀ type : TypeExpr, (∀ part ∈ type.parts, motive part) → motive type)
    (type : TypeExpr) : motive type := by
  refine step type ?_
  match type with
  | .array inner | .mapping inner | .nullable inner =>
    exact List.forall_mem_singleton.2 (inductionOnParts step inner)
  | .union members | .intersection members => exact inductionOnMembers step members
  | .object fields => exact List.forall_mem_map.2 (inductionOnFields step fields)
  | .named _ | .primitive _ | .literal _ | .unknown | .noContent => exact nofun

theorem inductionOnMembers {motive : TypeExpr → Prop}
    (step : ∀ type : TypeExpr, (∀ part ∈ type.parts, motive part) → motive type)
    (members : List TypeExpr) : ∀ member ∈ members, motive member := by
  match members with
  | [] => exact nofun
  | first :: rest =>
    exact List.forall_mem_cons.2 ⟨inductionOnParts step first, inductionOnMembers step rest⟩

theorem inductionOnFields {motive : TypeExpr → Prop}
    (step : ∀ type : TypeExpr, (∀ part ∈ type.parts, motive part) → motive type)
    (fields : List (FieldLabel × TypeExpr)) : ∀ field ∈ fields, motive field.2 := by
  match fields with
  | [] => exact nofun
  | (_, type) :: rest =>
    exact List.forall_mem_cons.2 ⟨inductionOnParts step type, inductionOnFields step rest⟩

end

end ClientModel.TypeExpr
