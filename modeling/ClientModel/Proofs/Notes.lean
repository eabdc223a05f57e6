/-
This file says which notes are left while a model is built. Resolving a schema leaves none, and
making a call only those about parameters that it does not pass.
-/

import ClientModel.Proofs.Computation

namespace ClientModel

/-! ### Schemas -/

variable {kind : Notice → Prop}

open Assembly (NotesOnly)

theorem notesOnly_discriminatedMembers (propertyName identifier : String)
    (mapping : List (String × String)) :
    NotesOnly kind (discriminatedMembers propertyName identifier mapping) := by
  induction mapping with
  | nil => exact .pure _
  | cons entry rest inductionHypothesis =>
    exact (NotesOnly.askType _).bind fun _ => inductionHypothesis.bind fun _ => .pure _

theorem notesOnly_tagTypes (values : Option (List Value)) {items : Assembly TypeExpr}
    (resolved : NotesOnly kind items) (tags : List String) :
    NotesOnly kind (tagTypes values items tags) := by
  induction tags with
  | nil => exact .pure _
  | cons tag rest inductionHypothesis =>
    unfold tagTypes
    split
    · exact resolved.bind fun _ => inductionHypothesis.bind fun _ => .pure _
    · exact (NotesOnly.pure _).bind fun _ => inductionHypothesis.bind fun _ => .pure _

mutual

/-- Resolving a schema leaves no note, of whatever kind. -/
theorem notesOnly_resolve (node : SchemaNode) : NotesOnly kind (resolve node) := by
  match node with
  | .reference _ _ => exact (NotesOnly.askType _).bind fun _ => .pure _
  | .composition _ operator members discriminator =>
    unfold resolve
    split
    · exact (NotesOnly.askProperty _).bind fun _ =>
        (notesOnly_discriminatedMembers _ _ _).bind fun _ => .pure _
    · exact (notesOnly_resolveMembers members).bind fun _ => .pure _
    · exact (notesOnly_resolveMembers members).bind fun _ => .pure _
  | .typeList _ tags (some items) values =>
    exact (notesOnly_tagTypes values (notesOnly_resolve items) tags).bind fun _ => .pure _
  | .object _ (some properties) required _ =>
    exact (notesOnly_resolveProperties required properties).bind fun _ => .pure _
  | .object _ none _ (.schema values) => exact (notesOnly_resolve values).bind fun _ => .pure _
  | .array _ (some items) => exact (notesOnly_resolve items).bind fun _ => .pure _
  | .object _ none _ .unspecified | .object _ none _ (.allowed _) | .typeList _ _ none _
  | .array _ none | .enumeration _ _ _ | .primitive _ _ | .unknown _ | .constant _ _ =>
    exact .pure _

theorem notesOnly_resolveMembers (members : List SchemaNode) :
    NotesOnly kind (resolveMembers members) := by
  match members with
  | [] => exact .pure _
  | member :: rest =>
    exact (notesOnly_resolve member).bind fun _ =>
      (notesOnly_resolveMembers rest).bind fun _ => .pure _

theorem notesOnly_resolveProperties (required : List String)
    (properties : List (String × SchemaNode)) :
    NotesOnly kind (resolveProperties required properties) := by
  match properties with
  | [] => exact .pure _
  | (name, node) :: rest =>
    exact (NotesOnly.askProperty name).bind fun _ => (notesOnly_resolve node).bind fun _ =>
      (NotesOnly.ofExcept _).bind fun _ =>
        (notesOnly_resolveProperties required rest).bind fun _ => .pure _

end

theorem notesOnly_resolveOptional (schema : Option SchemaNode) :
    NotesOnly kind (resolveOptional schema) := by
  cases schema with
  | none => exact .pure _
  | some node => exact notesOnly_resolve node

/-! ### Calls -/

/-- The note is about a parameter that no call passes. -/
def Notice.IsAboutParameter (notice : Notice) : Prop :=
  (∃ operationId, notice = .unnamedParameter operationId) ∨
    ∃ location name operationId, notice = .skippedParameter location name operationId

namespace Assembly

theorem notesOnly_argumentsOf (operationId : String) (parameters : List Parameter) :
    NotesOnly Notice.IsAboutParameter (argumentsOf operationId parameters) := by
  induction parameters with
  | nil => exact .pure _
  | cons parameter rest inductionHypothesis =>
    unfold argumentsOf
    split
    · exact (NotesOnly.leave (Or.inl ⟨_, rfl⟩)).bind fun _ => inductionHypothesis
    · split
      · refine (NotesOnly.leaveAll fun notice member => ?_).bind fun _ => inductionHypothesis
        rw [skipped] at member
        split at member
        · cases member
        · exact Or.inr ⟨_, _, _, List.mem_singleton.1 member⟩
      · exact (NotesOnly.askProperty _).bind fun _ => (notesOnly_resolve _).bind fun _ =>
          inductionHypothesis.bind fun _ => .pure _

theorem notesOnly_bodyOf (operation : Operation) : NotesOnly kind (bodyOf operation) := by
  unfold bodyOf
  split
  · exact (notesOnly_resolveOptional _).bind fun _ => .pure _
  · split
    · exact (notesOnly_resolve _).bind fun _ => .pure _
    · exact .pure _

theorem notesOnly_responseTypeOf (operation : Operation) :
    NotesOnly kind (responseTypeOf operation) := by
  unfold responseTypeOf
  split
  · exact .pure _
  · split
    · exact notesOnly_resolveOptional _
    · exact .pure _

/-- Making a call leaves only notes about parameters. -/
theorem notesOnly_callOf (operation : Operation) :
    NotesOnly Notice.IsAboutParameter (callOf operation) :=
  (NotesOnly.askPath _).bind fun _ => (notesOnly_argumentsOf _ _).bind fun _ =>
    (notesOnly_bodyOf operation).bind fun _ =>
      (notesOnly_responseTypeOf operation).bind fun _ => .pure _

end Assembly

end ClientModel
