/-
This file says what the declarations of a document are: each schema becomes one, and the later of
two with the same identifier takes the place of the earlier one. The main statements are that
identifiers are distinct, and that a declaration extends nothing that its type does not mention.
-/

import ClientModel.Assembly.Model
import ClientModel.Proofs.Computation
import ClientModel.Proofs.Placement
import Mathlib.Data.List.Forall2

namespace ClientModel.Assembly

/-! ### One declaration -/

theorem result_askTargets (pointers : List String) :
    (askTargets pointers).result =
      .ok (pointers.map fun pointer => Naming.typeIdentifier (targetOf pointer)) := by
  induction pointers with
  | nil => rfl
  | cons pointer rest inductionHypothesis =>
    simp [askTargets, inductionHypothesis, Except.bind]

/-- A declaration that is made of a named schema, part by part. -/
structure IsDeclarationOf (schemaName : String) (node : SchemaNode) (declaration : Declaration) :
    Prop where
  name : declaration.name = schemaName
  identifier : declaration.identifier = Naming.typeIdentifier schemaName
  type : (resolve node).result = .ok declaration.type
  description : describe node.notes none = .ok declaration.description
  supertypes : declaration.supertypes =
    (supertypePointers node).map fun pointer => Naming.typeIdentifier (targetOf pointer)

/-- A schema becomes the declaration that is made of it. -/
theorem result_declarationOf_iff (name : String) (node : SchemaNode) (declaration : Declaration) :
    (declarationOf name node).result = .ok declaration ↔
      IsDeclarationOf name node declaration := by
  unfold declarationOf
  simp only [result_bind_eq_ok_iff, result_askType, result_ofExcept, result_askTargets,
    result_pure, Except.ok.injEq, exists_eq_left']
  constructor
  · rintro ⟨type, resolved, description, described, rfl⟩
    exact ⟨rfl, rfl, resolved, described, rfl⟩
  · rintro ⟨rfl, sameIdentifier, resolved, described, sameSupertypes⟩
    refine ⟨_, resolved, _, described, ?_⟩
    rw [← sameIdentifier, ← sameSupertypes]

/-- References resolve to the names they target. -/
theorem resolveMembers_of_references {members : List SchemaNode} {pointers : List String}
    (references : members.mapM referencePointer? = some pointers) {types : List TypeExpr}
    (resolved : (resolveMembers members).result = .ok types) :
    types = pointers.map fun pointer => .named (Naming.typeIdentifier (targetOf pointer)) := by
  induction members generalizing pointers types with
  | nil =>
    simp only [List.mapM_nil, Option.pure_def, Option.some.injEq] at references
    simp only [resolveMembers, result_pure, Except.ok.injEq] at resolved
    simp [← references, ← resolved]
  | cons member rest inductionHypothesis =>
    simp only [List.mapM_cons, Option.bind_eq_bind, Option.pure_def, Option.bind_eq_some_iff,
      Option.some.injEq] at references
    obtain ⟨pointer, reference, others, further, rfl⟩ := references
    simp only [resolveMembers, result_bind_eq_ok_iff, result_pure, Except.ok.injEq] at resolved
    obtain ⟨type, first, remaining, second, rfl⟩ := resolved
    rw [inductionHypothesis further second, List.map_cons]
    cases member <;> simp only [referencePointer?, Option.some.injEq, reduceCtorEq] at reference
    subst reference
    simp only [resolve, result_bind_eq_ok_iff, result_askType, result_pure, Except.ok.injEq,
      exists_eq_left'] at first
    rw [← first]

/-- A schema that extends something is an intersection of references. -/
theorem supertypePointers_cases (node : SchemaNode) :
    supertypePointers node = [] ∨ ∃ notes members discriminator,
      node = .composition notes .allOf members discriminator ∧
        members.mapM referencePointer? = some (supertypePointers node) := by
  match node with
  | .composition notes .allOf members discriminator =>
    simp only [supertypePointers]
    cases references : members.mapM referencePointer? with
    | none => exact Or.inl rfl
    | some pointers => exact Or.inr ⟨notes, members, discriminator, rfl, references⟩
  | .composition _ .anyOf _ _ | .composition _ .oneOf _ _ | .reference _ _ | .primitive _ _
  | .enumeration _ _ _ | .constant _ _ | .array _ _ | .object _ _ _ _ | .typeList _ _ _ _
  | .unknown _ => exact Or.inl rfl

/-- A declaration extends only types that its own type mentions. -/
theorem IsDeclarationOf.mem_references {name : String} {node : SchemaNode}
    {declaration : Declaration} (made : IsDeclarationOf name node declaration) {supertype : String}
    (member : supertype ∈ declaration.supertypes) : supertype ∈ declaration.type.references := by
  rw [made.supertypes] at member
  rcases supertypePointers_cases node with none | ⟨notes, members, discriminator, rfl, references⟩
  · simp [none] at member
  · have resolved := made.type
    simp only [resolve, result_bind_eq_ok_iff, result_pure, Except.ok.injEq] at resolved
    obtain ⟨types, resolvedMembers, same⟩ := resolved
    rw [← same, TypeExpr.references, resolveMembers_of_references references resolvedMembers,
      TypeExpr.referencesOfMembers_eq_flatMap, List.flatMap_map]
    simpa [TypeExpr.references, eq_comm] using member

/-! ### All declarations -/

theorem placeDeclaration_eq (declaration : Declaration) (declarations : List Declaration) :
    placeDeclaration declaration declarations =
      Placement.place Declaration.identifier declaration declarations := by
  induction declarations with
  | nil => rfl
  | cons other rest inductionHypothesis =>
    simp only [placeDeclaration, Placement.place, inductionHypothesis]

/-- Declarations are made of all schemas in turn, and placed one after another. -/
theorem result_placeDeclarations_iff (earlier : List Declaration)
    (schemas : List (String × SchemaNode)) (placed : List Declaration) :
    (placeDeclarations earlier schemas).result = .ok placed ↔
      ∃ declared, List.Forall₂ (fun entry => IsDeclarationOf entry.1 entry.2) schemas declared ∧
        placed = declared.foldl
          (fun before declaration => Placement.place Declaration.identifier declaration before)
          earlier := by
  induction schemas generalizing earlier with
  | nil => simp [placeDeclarations, eq_comm]
  | cons entry rest inductionHypothesis =>
    obtain ⟨name, node⟩ := entry
    simp only [placeDeclarations, result_bind_eq_ok_iff, result_leaveAll, exists_const, true_and,
      result_declarationOf_iff, inductionHypothesis, placeDeclaration_eq,
      List.forall₂_cons_left_iff]
    constructor
    · rintro ⟨declaration, made, declared, others, rfl⟩
      exact ⟨_, ⟨declaration, declared, made, others, rfl⟩, rfl⟩
    · rintro ⟨_, ⟨declaration, declared, made, others, rfl⟩, rfl⟩
      exact ⟨declaration, made, declared, others, rfl⟩

/-- The declarations of a document are what is left of those of its schemas. -/
theorem result_declarations_iff (document : Document) (placed : List Declaration) :
    (declarations document).result = .ok placed ↔
      ∃ declared,
        List.Forall₂ (fun entry => IsDeclarationOf entry.1 entry.2) document.schemas declared ∧
          placed = Placement.placeAll Declaration.identifier declared :=
  result_placeDeclarations_iff [] document.schemas placed

/-- No two declarations of a document have the same identifier. -/
theorem nodup_identifiers {document : Document} {placed : List Declaration}
    (built : (declarations document).result = .ok placed) :
    (placed.map Declaration.identifier).Nodup := by
  obtain ⟨declared, _, rfl⟩ := (result_declarations_iff document placed).1 built
  exact Placement.nodup_map_key_placeAll Declaration.identifier declared

/-- Every declaration of a document is made of one of its schemas. -/
theorem exists_schema_of_mem {document : Document} {placed : List Declaration}
    (built : (declarations document).result = .ok placed) {declaration : Declaration}
    (member : declaration ∈ placed) :
    ∃ entry ∈ document.schemas, IsDeclarationOf entry.1 entry.2 declaration := by
  obtain ⟨declared, made, rfl⟩ := (result_declarations_iff document placed).1 built
  have last := (Placement.mem_placeAll_iff Declaration.identifier declared declaration).1 member
  exact Placement.exists_mem_of_forall₂ made.flip last.mem

/-- Every schema of a document has a declaration with its identifier. -/
theorem identifier_mem_of_mem_schemas {document : Document} {placed : List Declaration}
    (built : (declarations document).result = .ok placed) {entry : String × SchemaNode}
    (member : entry ∈ document.schemas) :
    Naming.typeIdentifier entry.1 ∈ placed.map Declaration.identifier := by
  obtain ⟨declared, made, rfl⟩ := (result_declarations_iff document placed).1 built
  obtain ⟨declaration, among, here⟩ := Placement.exists_mem_of_forall₂ made member
  rw [Placement.map_key_placeAll, List.mem_eraseDups, ← here.identifier]
  exact List.mem_map_of_mem among

/-! ### Models -/

/-- A model consists of the kept declarations of a document and of the tree of its calls. -/
theorem result_modelOf_iff (document : Document) (operationIds : Option (List String))
    (model : Model) :
    (modelOf document operationIds).result = .ok model ↔
      ∃ all root, (declarations document).result = .ok all ∧
        (namespaceRoot document operationIds).result = .ok root ∧
          model = ⟨document.info, keptDeclarations all root operationIds, root⟩ := by
  simp only [modelOf, result_bind_eq_ok_iff, result_leaveAll, result_leave, result_pure,
    Except.ok.injEq, exists_const, true_and]
  constructor
  · rintro ⟨all, declared, root, placed, rfl⟩
    exact ⟨all, root, declared, placed, rfl⟩
  · rintro ⟨all, root, declared, placed, rfl⟩
    exact ⟨all, declared, root, placed, rfl⟩

end ClientModel.Assembly
