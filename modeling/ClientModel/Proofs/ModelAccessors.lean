/-
This file says which accessors stand in a model: those of the fields of its types, however deep, and
those of the arguments of its calls. The main statement is that each of them is the accessor of the
key that stands beside it, wherever in the document that key was written.
-/

import ClientModel.Proofs.Arguments
import ClientModel.Proofs.Buildability

namespace ClientModel

/-! ### Fields of types -/

namespace TypeExpr

mutual

/-- The labels of the fields in a type, at any depth. -/
def labels : TypeExpr → List FieldLabel
  | .array items => items.labels
  | .mapping values => values.labels
  | .nullable inner => inner.labels
  | .union members => labelsOfMembers members
  | .intersection members => labelsOfMembers members
  | .object fields => labelsOfFields fields
  | .named _ | .primitive _ | .literal _ | .unknown | .noContent => []

/-- The labels of the fields in members. -/
def labelsOfMembers : List TypeExpr → List FieldLabel
  | [] => []
  | member :: rest => member.labels ++ labelsOfMembers rest

/-- The labels of fields, and of the fields in their types. -/
def labelsOfFields : List (FieldLabel × TypeExpr) → List FieldLabel
  | [] => []
  | (label, type) :: rest => label :: (type.labels ++ labelsOfFields rest)

end

theorem labelsOfMembers_eq_flatMap (members : List TypeExpr) :
    labelsOfMembers members = members.flatMap labels := by
  induction members with
  | nil => rfl
  | cons member rest inductionHypothesis => simp [labelsOfMembers, inductionHypothesis]

theorem labels_nullableIf (notes : Annotations) (type : TypeExpr) :
    (nullableIf notes type).labels = type.labels := by
  unfold nullableIf
  split <;> rfl

theorem labels_literalUnion (values : List Value) : (literalUnion values).labels = [] := by
  rw [literalUnion, labels, labelsOfMembers_eq_flatMap]
  simp [labels]

theorem labels_primitiveType (tag : String) : (primitiveType tag).labels = [] := by
  unfold primitiveType
  split <;> rfl

/-- One name in a list of types brings no fields but those of the items. -/
theorem labels_tagType_subset (values : Option (List Value)) (items : TypeExpr) (tag : String) :
    (tagType values items tag).labels ⊆ items.labels := by
  unfold tagType
  split
  · rw [labels_literalUnion]
    exact List.nil_subset _
  · split
    · exact List.Subset.refl _
    · split
      · exact List.nil_subset _
      · rw [labels_primitiveType]
        exact List.nil_subset _

end TypeExpr

/-! ### Accessors of fields -/

/-- Labels that have the accessors of their keys. -/
def AreLabelled (labels : List FieldLabel) : Prop :=
  ∀ label ∈ labels, label.identifier = Naming.propertyIdentifier label.name

namespace AreLabelled

variable {label : FieldLabel} {labels others : List FieldLabel}

theorem nil : AreLabelled [] := nofun

theorem append (here : AreLabelled labels) (there : AreLabelled others) :
    AreLabelled (labels ++ others) :=
  List.forall_mem_append.2 ⟨here, there⟩

theorem cons (here : label.identifier = Naming.propertyIdentifier label.name)
    (others : AreLabelled labels) : AreLabelled (label :: labels) :=
  List.forall_mem_cons.2 ⟨here, others⟩

theorem of_subset (all : AreLabelled others) (subset : labels ⊆ others) : AreLabelled labels :=
  fun label member => all label (subset member)

end AreLabelled

/-- The members that a discriminator tells apart have a field for its property. -/
theorem areLabelled_variants (propertyName : String) (mapping : List (String × String)) :
    AreLabelled (TypeExpr.union (mapping.map fun target =>
      .intersection [.named (Naming.typeIdentifier (mappedTarget target.1 target.2)),
        tagObject propertyName (Naming.propertyIdentifier propertyName) target.1])).labels := by
  rw [TypeExpr.labels, TypeExpr.labelsOfMembers_eq_flatMap, List.flatMap_map]
  intro label member
  obtain ⟨target, _, here⟩ := List.mem_flatMap.1 member
  obtain rfl : label = ⟨propertyName, Naming.propertyIdentifier propertyName, false, none⟩ := by
    simpa [TypeExpr.labels, TypeExpr.labelsOfMembers, TypeExpr.labelsOfFields, tagObject] using here
  rfl

theorem areLabelled_tagTypes {values : Option (List Value)} {items : Assembly TypeExpr}
    (right : ∀ itemType, items.result = .ok itemType → AreLabelled itemType.labels)
    {tags : List String} {types : List TypeExpr}
    (resolved : (tagTypes values items tags).result = .ok types) :
    AreLabelled (TypeExpr.labelsOfMembers types) := by
  induction tags generalizing types with
  | nil =>
    rw [← Except.ok.inj resolved]
    exact .nil
  | cons tag rest inductionHypothesis =>
    unfold tagTypes at resolved
    split at resolved
    · simp only [Assembly.result_bind_eq_ok_iff, Assembly.result_pure, Except.ok.injEq] at resolved
      obtain ⟨itemType, made, others, further, rfl⟩ := resolved
      exact ((right itemType made).of_subset (TypeExpr.labels_tagType_subset _ _ _)).append
        (inductionHypothesis further)
    · simp only [Assembly.result_bind_eq_ok_iff, Assembly.result_pure, Except.ok.injEq,
        exists_eq_left'] at resolved
      obtain ⟨others, further, rfl⟩ := resolved
      exact (AreLabelled.nil.of_subset (TypeExpr.labels_tagType_subset _ _ _)).append
        (inductionHypothesis further)

section

open Assembly

mutual

/-- Every field in the type of a schema has the accessor of its key. The cases are those of
resolving a schema. -/
theorem areLabelled_of_resolve {node : SchemaNode} {type : TypeExpr}
    (resolved : (resolve node).result = .ok type) : AreLabelled type.labels := by
  match node with
  | .reference _ pointer =>
    rw [← Except.ok.inj resolved]
    exact .nil
  | .composition _ .oneOf members discriminator =>
    unfold resolve at resolved
    cases used : Discriminator.usable? discriminator with
    | some found =>
      rw [used] at resolved
      simp only [result_bind_eq_ok_iff, result_askProperty, result_discriminatedMembers,
        result_pure, Except.ok.injEq, exists_eq_left'] at resolved
      rw [← resolved]
      exact areLabelled_variants _ _
    | none =>
      rw [used] at resolved
      obtain ⟨types, each, rfl⟩ := exists_of_result_bind_pure resolved
      exact areLabelled_of_resolveMembers each
  | .composition _ .anyOf members _ | .composition _ .allOf members _ =>
    unfold resolve at resolved
    obtain ⟨types, each, rfl⟩ := exists_of_result_bind_pure resolved
    exact areLabelled_of_resolveMembers each
  | .typeList _ tags none values =>
    rw [← Except.ok.inj resolved, TypeExpr.labels, TypeExpr.labelsOfMembers_eq_flatMap,
      List.flatMap_map]
    intro label member
    obtain ⟨tag, _, here⟩ := List.mem_flatMap.1 member
    cases TypeExpr.labels_tagType_subset values .unknown tag here
  | .typeList _ tags (some items) values =>
    unfold resolve at resolved
    obtain ⟨types, each, rfl⟩ := exists_of_result_bind_pure resolved
    exact areLabelled_tagTypes (fun itemType made => areLabelled_of_resolve made) each
  | .constant _ _ =>
    rw [← Except.ok.inj resolved]
    exact .nil
  | .object _ (some properties) required _ =>
    unfold resolve at resolved
    obtain ⟨fields, each, rfl⟩ := exists_of_result_bind_pure resolved
    rw [TypeExpr.labels_nullableIf]
    exact areLabelled_of_resolveProperties each
  | .object _ none _ (.schema values) =>
    unfold resolve at resolved
    obtain ⟨valueType, made, rfl⟩ := exists_of_result_bind_pure resolved
    rw [TypeExpr.labels_nullableIf, TypeExpr.labels]
    exact areLabelled_of_resolve made
  | .array _ (some items) =>
    unfold resolve at resolved
    obtain ⟨itemType, made, rfl⟩ := exists_of_result_bind_pure resolved
    rw [TypeExpr.labels_nullableIf, TypeExpr.labels]
    exact areLabelled_of_resolve made
  | .object _ none _ .unspecified | .object _ none _ (.allowed _) | .array _ none | .unknown _ =>
    rw [← Except.ok.inj resolved, TypeExpr.labels_nullableIf]
    exact .nil
  | .enumeration _ _ values =>
    rw [← Except.ok.inj resolved, TypeExpr.labels_nullableIf, TypeExpr.labels_literalUnion]
    exact .nil
  | .primitive _ tag =>
    rw [← Except.ok.inj resolved, TypeExpr.labels_nullableIf, TypeExpr.labels_primitiveType]
    exact .nil

theorem areLabelled_of_resolveMembers {members : List SchemaNode} {types : List TypeExpr}
    (resolved : (resolveMembers members).result = .ok types) :
    AreLabelled (TypeExpr.labelsOfMembers types) := by
  match members with
  | [] =>
    rw [← Except.ok.inj resolved]
    exact .nil
  | member :: rest =>
    unfold resolveMembers at resolved
    simp only [result_bind_eq_ok_iff, result_pure, Except.ok.injEq] at resolved
    obtain ⟨type, first, types, further, rfl⟩ := resolved
    exact (areLabelled_of_resolve first).append (areLabelled_of_resolveMembers further)

theorem areLabelled_of_resolveProperties {properties : List (String × SchemaNode)}
    {required : List String} {fields : List (FieldLabel × TypeExpr)}
    (resolved : (resolveProperties required properties).result = .ok fields) :
    AreLabelled (TypeExpr.labelsOfFields fields) := by
  match properties with
  | [] =>
    rw [← Except.ok.inj resolved]
    exact .nil
  | (name, node) :: rest =>
    unfold resolveProperties at resolved
    simp only [result_bind_eq_ok_iff, result_askProperty, result_ofExcept, result_pure,
      Except.ok.injEq, exists_eq_left'] at resolved
    obtain ⟨type, first, description, _, fields, further, rfl⟩ := resolved
    exact .cons rfl ((areLabelled_of_resolve first).append
      (areLabelled_of_resolveProperties further))

end

end

/-! ### Types of calls and models -/

/-- The types that a call shows: of its arguments, of its body, of its response. -/
def Call.types (call : Call) : List TypeExpr :=
  call.arguments.map Argument.type ++ (call.body.map BodyArgument.type).toList ++
    [call.responseType]

/-- The types that a model shows: of its declarations and of its calls. -/
def Model.types (model : Model) : List TypeExpr :=
  model.declarations.map Declaration.type ++ model.root.walk.flatMap Call.types

/-- Where accessors stand in a model, each with its key: in the fields of types, and in the
arguments of calls. -/
def Model.accessors (model : Model) : List (String × String) :=
  (model.types.flatMap TypeExpr.labels).map (fun label => (label.name, label.identifier)) ++
    (model.root.walk.flatMap Call.arguments).map fun argument =>
      (argument.name, argument.identifier)

namespace Assembly

theorem areLabelled_of_resolveOptional {schema : Option SchemaNode} {type : TypeExpr}
    (resolved : (resolveOptional schema).result = .ok type) : AreLabelled type.labels := by
  cases schema with
  | none =>
    rw [← Except.ok.inj resolved]
    exact .nil
  | some node => exact areLabelled_of_resolve resolved

theorem areLabelled_of_bodyOf {operation : Operation} {body : BodyArgument}
    (made : (bodyOf operation).result = .ok (some body)) : AreLabelled body.type.labels := by
  unfold bodyOf at made
  split at made
  · simp only [result_bind_eq_ok_iff, result_pure, Except.ok.injEq, Option.some.injEq] at made
    obtain ⟨type, resolved, rfl⟩ := made
    exact areLabelled_of_resolveOptional resolved
  · split at made
    · simp only [result_bind_eq_ok_iff, result_pure, Except.ok.injEq, Option.some.injEq] at made
      obtain ⟨type, resolved, rfl⟩ := made
      exact areLabelled_of_resolve resolved
    · cases made

theorem areLabelled_of_responseTypeOf {operation : Operation} {type : TypeExpr}
    (made : (responseTypeOf operation).result = .ok type) : AreLabelled type.labels := by
  unfold responseTypeOf at made
  split at made
  · rw [← Except.ok.inj made]
    exact .nil
  · split at made
    · exact areLabelled_of_resolveOptional made
    · rw [← Except.ok.inj made]
      exact .nil

/-- The argument of a call passes one of the parameters. -/
theorem exists_isPassedAs_of_mem {operation : Operation} {call : Call}
    (made : (callOf operation).result = .ok call) {argument : Argument}
    (member : argument ∈ call.arguments) :
    ∃ parameter ∈ operation.parameters, parameter.IsPassedAs argument := by
  obtain ⟨arguments, _, _, passed, _, _, rfl⟩ := (result_callOf_eq_ok_iff operation call).1 made
  have each := (result_argumentsOf_iff _ _ _).1 passed
  obtain ⟨parameter, among, here⟩ := Placement.exists_mem_of_forall₂ each.flip member
  exact ⟨parameter, (List.mem_filter.1 among).1, here⟩

theorem areLabelled_of_callOf {operation : Operation} {call : Call}
    (made : (callOf operation).result = .ok call) {type : TypeExpr} (member : type ∈ call.types) :
    AreLabelled type.labels := by
  obtain ⟨_, body, _, _, taken, answered, parts⟩ :=
    (result_callOf_eq_ok_iff operation call).1 made
  simp only [Call.types, List.mem_append, List.mem_map, List.mem_singleton, Option.mem_toList,
    Option.map_eq_some_iff] at member
  rcases member with (⟨argument, among, rfl⟩ | ⟨sent, here, rfl⟩) | rfl
  · obtain ⟨parameter, _, passed⟩ := exists_isPassedAs_of_mem made among
    exact areLabelled_of_resolve passed.type
  · have same : body = some sent := (congrArg Call.body parts).trans here
    exact areLabelled_of_bodyOf (same ▸ taken)
  · rw [← parts]
    exact areLabelled_of_responseTypeOf answered

/-- In a model every accessor is that of the key beside it. -/
theorem accessors_of_modelOf {document : Document} {operationIds : Option (List String)}
    {model : Model} (built : (modelOf document operationIds).result = .ok model)
    {key accessor : String} (member : (key, accessor) ∈ model.accessors) :
    accessor = Naming.propertyIdentifier key := by
  obtain ⟨all, root, declared, placed, rfl⟩ := (result_modelOf_iff _ _ _).1 built
  rcases List.mem_append.1 member with ofField | ofArgument
  · obtain ⟨label, among, same⟩ := List.mem_map.1 ofField
    obtain ⟨rfl, rfl⟩ := Prod.mk.inj same
    obtain ⟨type, shown, inside⟩ := List.mem_flatMap.1 among
    rcases List.mem_append.1 shown with ofDeclaration | ofCall
    · obtain ⟨declaration, kept, rfl⟩ := List.mem_map.1 ofDeclaration
      obtain ⟨_, _, made⟩ := exists_schema_of_mem declared
        (mem_declarations_of_mem_keptDeclarations kept)
      exact areLabelled_of_resolve made.type label inside
    · obtain ⟨call, among, here⟩ := List.mem_flatMap.1 ofCall
      obtain ⟨_, _, _, made⟩ := exists_operation_of_mem_walk placed among
      exact areLabelled_of_callOf made here label inside
  · obtain ⟨argument, among, same⟩ := List.mem_map.1 ofArgument
    obtain ⟨rfl, rfl⟩ := Prod.mk.inj same
    obtain ⟨call, walked, here⟩ := List.mem_flatMap.1 among
    obtain ⟨_, _, _, made⟩ := exists_operation_of_mem_walk placed walked
    obtain ⟨parameter, _, passed⟩ := exists_isPassedAs_of_mem made here
    rw [passed.identifier, passed.name]

end Assembly

end ClientModel
