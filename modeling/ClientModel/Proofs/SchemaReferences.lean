/-
This file says which declared types a schema refers to by one recursion on the schema, without its
type in between. Annotations do not matter for this, and neither do the properties that an object
may hold beside those it names, nor the members of a choice that a discriminator tells apart. The
main statement is that the type of a schema mentions exactly these types, in their order and as
often; so a search that follows the types of declarations follows the references of schemas.
-/

import ClientModel.Model.Reachability
import ClientModel.Proofs.Declarations
import ClientModel.Proofs.SchemaMeaning

namespace ClientModel

/-! ### References of schemas -/

/-- What a discriminator refers to, one type for each entry of its mapping. Only a choice of one has
a use for it, and only where it names a property and has a mapping. -/
def variantTargets? : Operator → Option Discriminator → Option (List String)
  | .oneOf, some ⟨some propertyName, some mapping⟩ =>
    if propertyName = "" ∨ mapping = [] then none
    else some (mapping.map fun entry => Naming.typeIdentifier (mappedTarget entry.1 entry.2))
  | _, _ => none

mutual

/-- The declared types that a schema refers to, in order, as often as it refers to them. -/
def SchemaNode.references : SchemaNode → List String
  | .reference _ pointer => [Naming.typeIdentifier (targetOf pointer)]
  | .composition _ operator members discriminator =>
    (variantTargets? operator discriminator).getD (referencesOfSchemas members)
  | .typeList _ tags (some items) _ =>
    tags.flatMap fun tag => if tag == "array" then items.references else []
  | .array _ (some items) => items.references
  | .object _ (some properties) _ _ => referencesOfProperties properties
  | .object _ none _ additional => additional.references
  | .primitive _ _ | .enumeration _ _ _ | .constant _ _ | .typeList _ _ none _ | .array _ none
  | .unknown _ => []

/-- The declared types that a schema for further properties refers to. -/
def Additional.references : Additional → List String
  | .unspecified | .allowed _ => []
  | .schema node => node.references

/-- The declared types that the members of a composition refer to. -/
def referencesOfSchemas : List SchemaNode → List String
  | [] => []
  | member :: rest => member.references ++ referencesOfSchemas rest

/-- The declared types that properties refer to. -/
def referencesOfProperties : List (String × SchemaNode) → List String
  | [] => []
  | (_, node) :: rest => node.references ++ referencesOfProperties rest

end

/-! ### References of types without sub-schemas -/

theorem references_nullableIf (notes : Annotations) (type : TypeExpr) :
    (nullableIf notes type).references = type.references := by
  unfold nullableIf
  split <;> rfl

theorem references_literalUnion (values : List Value) : (literalUnion values).references = [] := by
  rw [literalUnion, TypeExpr.references, TypeExpr.referencesOfMembers_eq_flatMap]
  simp [TypeExpr.references]

theorem references_primitiveType (tag : String) : (primitiveType tag).references = [] := by
  unfold primitiveType
  split <;> rfl

/-- In a list of types only an array mentions what its items mention. -/
theorem references_tagType (values : Option (List Value)) (items : TypeExpr) (tag : String) :
    (tagType values items tag).references = if tag == "array" then items.references else [] := by
  unfold tagType
  split
  · next listed isString =>
    rw [beq_iff_eq.1 isString]
    exact references_literalUnion listed
  · split
    · rfl
    · split
      · rfl
      · exact references_primitiveType tag

/-- The items are resolved anew for each array, and mention the same each time. -/
theorem references_of_tagTypes {values : Option (List Value)} {items : Assembly TypeExpr}
    {mentioned : List String}
    (right : ∀ itemType, items.result = .ok itemType → itemType.references = mentioned)
    {tags : List String} {types : List TypeExpr}
    (resolved : (tagTypes values items tags).result = .ok types) :
    TypeExpr.referencesOfMembers types =
      tags.flatMap fun tag => if tag == "array" then mentioned else [] := by
  induction tags generalizing types with
  | nil =>
    rw [← Except.ok.inj resolved]
    rfl
  | cons tag rest inductionHypothesis =>
    unfold tagTypes at resolved
    split at resolved
    · next isArray =>
      simp only [Assembly.result_bind_eq_ok_iff, Assembly.result_pure, Except.ok.injEq] at resolved
      obtain ⟨itemType, made, others, further, rfl⟩ := resolved
      rw [TypeExpr.referencesOfMembers, references_tagType, List.flatMap_cons, if_pos isArray,
        if_pos isArray, right itemType made, inductionHypothesis further]
    · next different =>
      simp only [Assembly.result_bind_eq_ok_iff, Assembly.result_pure, Except.ok.injEq,
        exists_eq_left'] at resolved
      obtain ⟨others, further, rfl⟩ := resolved
      rw [TypeExpr.referencesOfMembers, references_tagType, List.flatMap_cons, if_neg different,
        if_neg different, inductionHypothesis further]

/-- A member that a discriminator tells apart mentions what its entry refers to. -/
theorem references_variants (propertyName identifier : String)
    (mapping : List (String × String)) :
    (TypeExpr.union (mapping.map fun target =>
      .intersection [.named (Naming.typeIdentifier (mappedTarget target.1 target.2)),
        tagObject propertyName identifier target.1])).references =
      mapping.map fun entry => Naming.typeIdentifier (mappedTarget entry.1 entry.2) := by
  rw [TypeExpr.references, TypeExpr.referencesOfMembers_eq_flatMap, List.flatMap_map]
  exact List.flatMap_pure_eq_map _ _

/-- A discriminator is used where it refers to something. -/
theorem variantTargets?_oneOf (discriminator : Option Discriminator) :
    variantTargets? .oneOf discriminator = (Discriminator.usable? discriminator).map fun found =>
      found.2.map fun entry => Naming.typeIdentifier (mappedTarget entry.1 entry.2) := by
  match discriminator with
  | some ⟨some propertyName, some mapping⟩ =>
    by_cases unusable : propertyName = "" ∨ mapping = []
    · simp [variantTargets?, Discriminator.usable?, unusable]
    · simp [variantTargets?, Discriminator.usable?, unusable]
  | none | some ⟨none, _⟩ | some ⟨some _, none⟩ => rfl

/-! ### References of types -/

section

open Assembly

mutual

/-- The type of a schema mentions what the schema refers to. The cases are those of resolving a
schema, each with the part that it resolves. -/
theorem references_of_resolve {node : SchemaNode} {type : TypeExpr}
    (resolved : (resolve node).result = .ok type) : type.references = node.references := by
  match node with
  | .reference _ pointer =>
    rw [← Except.ok.inj resolved]
    rfl
  | .composition _ .oneOf members discriminator =>
    rw [SchemaNode.references, variantTargets?_oneOf]
    unfold resolve at resolved
    cases used : Discriminator.usable? discriminator with
    | some found =>
      rw [used] at resolved
      simp only [result_bind_eq_ok_iff, result_askProperty, result_discriminatedMembers,
        result_pure, Except.ok.injEq, exists_eq_left'] at resolved
      rw [← resolved]
      exact references_variants _ _ _
    | none =>
      rw [used] at resolved
      obtain ⟨types, each, rfl⟩ := exists_of_result_bind_pure resolved
      exact references_of_resolveMembers each
  | .composition _ .anyOf members _ | .composition _ .allOf members _ =>
    unfold resolve at resolved
    obtain ⟨types, each, rfl⟩ := exists_of_result_bind_pure resolved
    exact references_of_resolveMembers each
  | .typeList _ tags none values =>
    rw [← Except.ok.inj resolved, TypeExpr.references, TypeExpr.referencesOfMembers_eq_flatMap,
      List.flatMap_map]
    simp [references_tagType, TypeExpr.references, SchemaNode.references]
  | .typeList _ tags (some items) values =>
    unfold resolve at resolved
    obtain ⟨types, each, rfl⟩ := exists_of_result_bind_pure resolved
    exact references_of_tagTypes (fun itemType made => references_of_resolve made) each
  | .constant _ _ =>
    rw [← Except.ok.inj resolved]
    rfl
  | .object _ (some properties) required _ =>
    unfold resolve at resolved
    obtain ⟨fields, each, rfl⟩ := exists_of_result_bind_pure resolved
    rw [references_nullableIf]
    exact references_of_resolveProperties each
  | .object _ none _ (.schema values) =>
    unfold resolve at resolved
    obtain ⟨valueType, made, rfl⟩ := exists_of_result_bind_pure resolved
    rw [references_nullableIf, TypeExpr.references, references_of_resolve made]
    rfl
  | .array _ (some items) =>
    unfold resolve at resolved
    obtain ⟨itemType, made, rfl⟩ := exists_of_result_bind_pure resolved
    rw [references_nullableIf, TypeExpr.references, references_of_resolve made]
    rfl
  | .object _ none _ .unspecified | .object _ none _ (.allowed _) | .array _ none | .unknown _ =>
    rw [← Except.ok.inj resolved, references_nullableIf]
    rfl
  | .enumeration _ _ values =>
    rw [← Except.ok.inj resolved, references_nullableIf, references_literalUnion]
    rfl
  | .primitive _ tag =>
    rw [← Except.ok.inj resolved, references_nullableIf, references_primitiveType]
    rfl

theorem references_of_resolveMembers {members : List SchemaNode} {types : List TypeExpr}
    (resolved : (resolveMembers members).result = .ok types) :
    TypeExpr.referencesOfMembers types = referencesOfSchemas members := by
  match members with
  | [] =>
    rw [← Except.ok.inj resolved]
    rfl
  | member :: rest =>
    unfold resolveMembers at resolved
    simp only [result_bind_eq_ok_iff, result_pure, Except.ok.injEq] at resolved
    obtain ⟨type, first, types, further, rfl⟩ := resolved
    rw [TypeExpr.referencesOfMembers, referencesOfSchemas, references_of_resolve first,
      references_of_resolveMembers further]

theorem references_of_resolveProperties {properties : List (String × SchemaNode)}
    {required : List String} {fields : List (FieldLabel × TypeExpr)}
    (resolved : (resolveProperties required properties).result = .ok fields) :
    TypeExpr.referencesOfFields fields = referencesOfProperties properties := by
  match properties with
  | [] =>
    rw [← Except.ok.inj resolved]
    rfl
  | (name, node) :: rest =>
    unfold resolveProperties at resolved
    simp only [result_bind_eq_ok_iff, result_askProperty, result_ofExcept, result_pure,
      Except.ok.injEq, exists_eq_left'] at resolved
    obtain ⟨type, first, description, _, fields, further, rfl⟩ := resolved
    rw [TypeExpr.referencesOfFields, referencesOfProperties, references_of_resolve first,
      references_of_resolveProperties further]

end

/-! ### References of declarations -/

/-- A declaration leads to what its schema refers to: what it extends, its type mentions. -/
theorem Assembly.IsDeclarationOf.mem_successors_iff {name : String} {node : SchemaNode}
    {declaration : Declaration} (made : IsDeclarationOf name node declaration) (target : String) :
    target ∈ Reachability.successors declaration ↔ target ∈ node.references := by
  rw [Reachability.successors, List.mem_append, or_iff_left_of_imp made.mem_references,
    references_of_resolve made.type]

theorem Assembly.mem_undeclaredNames_iff (declared : List Declaration) (root : Namespace)
    (target : String) :
    target ∈ undeclaredNames declared root ↔
      (target ∈ root.references ∨
        ∃ declaration ∈ declared, target ∈ declaration.type.references) ∧
      ∀ declaration ∈ declared, declaration.identifier ≠ target := by
  simp [undeclaredNames, or_and_right]

/-- Among other declarations, that of a schema adds what the schema refers to, and nothing else, to
the names of which those without a declaration are noted. -/
theorem Assembly.IsDeclarationOf.mem_undeclaredNames_iff {name : String} {node : SchemaNode}
    {declaration : Declaration} (made : IsDeclarationOf name node declaration)
    (before after : List Declaration) (root : Namespace) (target : String) :
    target ∈ undeclaredNames (before ++ declaration :: after) root ↔
      (target ∈ root.references ∨ target ∈ node.references ∨
        ∃ other ∈ before ++ after, target ∈ other.type.references) ∧
      ∀ other ∈ before ++ declaration :: after, other.identifier ≠ target := by
  rw [Assembly.mem_undeclaredNames_iff, ← references_of_resolve made.type]
  refine and_congr_left' (or_congr_right ?_)
  simp only [List.mem_append, List.mem_cons, or_and_right, exists_or, exists_eq_left]
  exact or_left_comm

/-- A schema over JSON values has a type, and the type mentions what the schema refers to, in the
same order and as often. So what its declaration leads to is what the schema refers to, and so is
what the declaration adds to the names of which those without a declaration are noted. -/
theorem references_resolve {node : SchemaNode} (json : node.isJson = true) :
    (∃ type, (resolve node).result = .ok type ∧ type.references = node.references) ∧
    ∀ name, ∃ declaration, (declarationOf name node).result = .ok declaration ∧
      (∀ target, target ∈ Reachability.successors declaration ↔ target ∈ node.references) ∧
      ∀ before after root target,
        target ∈ undeclaredNames (before ++ declaration :: after) root ↔
          (target ∈ root.references ∨ target ∈ node.references ∨
            ∃ other ∈ before ++ after, target ∈ other.type.references) ∧
          ∀ other ∈ before ++ declaration :: after, other.identifier ≠ target := by
  constructor
  · obtain ⟨type, resolved⟩ := succeeds_resolve json
    exact ⟨type, resolved, references_of_resolve resolved⟩
  · intro name
    obtain ⟨declaration, declared⟩ := succeeds_declarationOf name json
    have made := (result_declarationOf_iff name node declaration).1 declared
    exact ⟨declaration, declared, made.mem_successors_iff, made.mem_undeclaredNames_iff⟩

/-- An object whose properties are a list of trees, an owner who is a person or a company, and
notes in two kinds of lists; what it may hold beside them is a shadow. -/
def forestSchema : SchemaNode :=
  .object { nullable := true }
    (some [
      ("trees", .array {} (some (.reference {} "#/components/schemas/tree"))),
      ("owner", .composition {} .oneOf [.reference {} "#/components/schemas/owner"]
        (some ⟨some "kind", some [("person", "#/components/schemas/natural_person"),
          ("company", "company.json")]⟩)),
      ("notes", .typeList {} ["array", "null", "array"]
        (some (.composition {} .anyOf [.reference {} "#/components/schemas/note",
          .primitive {} "string"] none)) none)])
    ["trees"] (.schema (.reference {} "#/components/schemas/shadow"))

theorem references_resolve_forestSchema :
    forestSchema.isJson = true ∧
    (∃ type, (resolve forestSchema).result = .ok type ∧
      type.references = ["Tree", "NaturalPerson", "Company", "Note", "Note"]) ∧
    ∃ declaration, (declarationOf "forest" forestSchema).result = .ok declaration ∧
      ∀ target, target ∈ Reachability.successors declaration ↔
        target ∈ ["Tree", "NaturalPerson", "Company", "Note", "Note"] := by
  have json : forestSchema.isJson = true := by decide
  have listed :
      forestSchema.references = ["Tree", "NaturalPerson", "Company", "Note", "Note"] := by rfl
  obtain ⟨⟨type, resolved, same⟩, declarations⟩ := references_resolve json
  obtain ⟨declaration, declared, leads, _⟩ := declarations "forest"
  refine ⟨json, ⟨type, resolved, same.trans listed⟩, declaration, declared, fun target => ?_⟩
  rw [leads, listed]

end

end ClientModel
