/-
This file says which schemas and operations can be built into a model. Building fails in one way
only: at a value that documentation shows and that has no text. It meets the annotations of the
named schemas, and those of the properties of the objects that it resolves, one after another. The
main statements are that a computation fails with the first of these annotations that cannot be
shown, and that the text of a type fails with the first of its literals that has none.
-/

import ClientModel.Proofs.SchemaMeaning
import ClientModel.Types.Rendering

namespace ClientModel

/-! ### Failures -/

namespace Assembly

variable {Product Further : Type}

/-- Why a computation fails, if it does. -/
def failure? (computation : Assembly Product) : Option Json.Unwritable :=
  match computation.result with
  | .ok _ => none
  | .error cause => some cause

theorem failure?_eq_some_iff (computation : Assembly Product) (cause : Json.Unwritable) :
    computation.failure? = some cause ↔ computation.result = .error cause := by
  unfold failure?
  cases computation.result <;> simp

@[simp] theorem failure?_pure (product : Product) :
    (pure product : Assembly Product).failure? = none := rfl

@[simp] theorem failure?_leave (notice : Notice) : (leave notice).failure? = none := rfl

@[simp] theorem failure?_leaveAll (notices : List Notice) : (leaveAll notices).failure? = none := by
  simp [failure?]

/-- Two steps fail as the first does, else as the second does, whatever it is told. -/
theorem failure?_bind {first : Assembly Product} {second : Product → Assembly Further}
    {later : Option Json.Unwritable} (each : ∀ product, (second product).failure? = later) :
    (first >>= second).failure? = first.failure?.or later := by
  unfold failure? at each ⊢
  rw [result_bind]
  cases first.result with
  | ok product => exact each product
  | error cause => rfl

/-- What is made of a product does not fail. -/
theorem failure?_bind_pure (first : Assembly Product) (make : Product → Further) :
    (first >>= fun product => pure (make product)).failure? = first.failure? := by
  rw [failure?_bind fun product => failure?_pure (make product), Option.or_none]

theorem failure?_describe (notes : Annotations) (context : Option String) :
    (ofExcept (describe notes context)).failure? = undocumentable? notes := by
  unfold failure? describe
  rw [result_ofExcept]
  cases undocumentable? notes with
  | some found => rfl
  | none =>
    dsimp only
    split
    · rfl
    · next found => split at found <;> cases found

end Assembly

/-! ### What a schema documents -/

mutual

/-- The annotations that are documented when a schema is resolved: those of the properties of its
objects. A choice that one property tells apart does not look at its members, and a list of types
looks at its items only for an array. -/
def SchemaNode.described : SchemaNode → List Annotations
  | .composition _ operator members discriminator =>
    match operator, Discriminator.usable? discriminator with
    | .oneOf, some _ => []
    | _, _ => describedMembers members
  | .typeList _ tags (some items) _ => if tags.contains "array" then items.described else []
  | .object _ (some properties) _ _ => describedProperties properties
  | .object _ none _ (.schema node) => node.described
  | .array _ (some items) => items.described
  | .typeList _ _ none _ | .object _ none _ .unspecified | .object _ none _ (.allowed _)
  | .array _ none | .reference _ _ | .enumeration _ _ _ | .primitive _ _ | .unknown _
  | .constant _ _ => []

/-- The annotations that are documented for members. -/
def describedMembers : List SchemaNode → List Annotations
  | [] => []
  | member :: rest => member.described ++ describedMembers rest

/-- The annotations that are documented for properties: of each what it documents, then its own. -/
def describedProperties : List (String × SchemaNode) → List Annotations
  | [] => []
  | (_, node) :: rest => node.described ++ [node.notes] ++ describedProperties rest

end

theorem failure?_discriminatedMembers (propertyName identifier : String)
    (mapping : List (String × String)) :
    (discriminatedMembers propertyName identifier mapping).failure? = none := by
  induction mapping with
  | nil => rfl
  | cons entry rest inductionHypothesis =>
    refine Assembly.failure?_bind fun target => ?_
    rw [Assembly.failure?_bind_pure, inductionHypothesis]

/-- Types are resolved anew for each array; all fail alike. -/
theorem failure?_tagTypes (values : Option (List Value)) (items : Assembly TypeExpr)
    (tags : List String) :
    (tagTypes values items tags).failure? =
      if tags.contains "array" then items.failure? else none := by
  induction tags with
  | nil => rfl
  | cons tag rest inductionHypothesis =>
    have further (itemType : TypeExpr) : (do
        let types ← tagTypes values items rest
        pure (tagType values itemType tag :: types) : Assembly (List TypeExpr)).failure? =
          if rest.contains "array" then items.failure? else none := by
      rw [Assembly.failure?_bind_pure, inductionHypothesis]
    unfold tagTypes
    dsimp only
    split
    · next isArray =>
      rw [beq_iff_eq.1 isArray] at further ⊢
      rw [Assembly.failure?_bind further]
      cases items.failure? <;> simp
    · next other =>
      have apart : ("array" == tag) = false := by
        rw [beq_eq_false_iff_ne]
        rintro rfl
        exact other rfl
      rw [Assembly.failure?_bind further, Assembly.failure?_pure, Option.none_or,
        List.contains_cons, apart, Bool.false_or]

mutual

/-- Resolving a schema fails with the first documented annotations that cannot be shown. -/
theorem failure?_resolve (node : SchemaNode) :
    (resolve node).failure? = node.described.findSome? undocumentable? := by
  match node with
  | .reference _ _ => rfl
  | .composition _ operator members discriminator =>
    have made (make : List TypeExpr → TypeExpr) : (do
        let types ← resolveMembers members
        pure (make types) : Assembly TypeExpr).failure? =
          (describedMembers members).findSome? undocumentable? := by
      rw [Assembly.failure?_bind_pure, failure?_resolveMembers members]
    unfold resolve SchemaNode.described
    cases operator with
    | anyOf => exact made .union
    | allOf => exact made .intersection
    | oneOf =>
      cases usable : Discriminator.usable? discriminator with
      | none => exact made .union
      | some found =>
        refine (Assembly.failure?_bind fun identifier => ?_).trans Option.none_or
        rw [Assembly.failure?_bind_pure, failure?_discriminatedMembers]
        rfl
  | .typeList _ _ none _ => rfl
  | .typeList _ tags (some items) values =>
    unfold resolve SchemaNode.described
    rw [Assembly.failure?_bind_pure, failure?_tagTypes, failure?_resolve items]
    split <;> rfl
  | .constant _ _ => rfl
  | .object _ (some properties) required _ =>
    unfold resolve SchemaNode.described
    rw [Assembly.failure?_bind_pure, failure?_resolveProperties required properties]
  | .object _ none _ (.schema values) =>
    unfold resolve SchemaNode.described
    rw [Assembly.failure?_bind_pure, failure?_resolve values]
  | .object _ none _ .unspecified | .object _ none _ (.allowed _) => rfl
  | .array _ (some items) =>
    unfold resolve SchemaNode.described
    rw [Assembly.failure?_bind_pure, failure?_resolve items]
  | .array _ none | .enumeration _ _ _ | .primitive _ _ | .unknown _ => rfl

theorem failure?_resolveMembers (members : List SchemaNode) :
    (resolveMembers members).failure? = (describedMembers members).findSome? undocumentable? := by
  match members with
  | [] => rfl
  | member :: rest =>
    unfold resolveMembers describedMembers
    rw [List.findSome?_append, ← failure?_resolve member, ← failure?_resolveMembers rest]
    refine Assembly.failure?_bind fun type => ?_
    rw [Assembly.failure?_bind_pure]

theorem failure?_resolveProperties (required : List String)
    (properties : List (String × SchemaNode)) :
    (resolveProperties required properties).failure? =
      (describedProperties properties).findSome? undocumentable? := by
  match properties with
  | [] => rfl
  | (name, node) :: rest =>
    unfold resolveProperties describedProperties
    rw [List.append_assoc, List.findSome?_append, List.findSome?_append, List.findSome?_singleton,
      ← failure?_resolve node, ← failure?_resolveProperties required rest,
      ← Assembly.failure?_describe node.notes (some name)]
    refine (Assembly.failure?_bind fun identifier => ?_).trans Option.none_or
    refine Assembly.failure?_bind fun type => Assembly.failure?_bind fun description => ?_
    rw [Assembly.failure?_bind_pure]

end

/-! ### The literals of a type -/

/-- The literals that one name in a list of types stands for, given those of the items. -/
def tagLiterals (values : Option (List Value)) (items : List Value) (tag : String) : List Value :=
  if tag == "string" then values.getD [] else if tag == "array" then items else []

mutual

/-- The values that the type of a schema shows as literals. Those by which a property tells members
apart are texts, and left out. -/
def SchemaNode.literals : SchemaNode → List Value
  | .composition _ operator members discriminator =>
    match operator, Discriminator.usable? discriminator with
    | .oneOf, some _ => []
    | _, _ => literalsOfMembers members
  | .typeList _ tags none values => tags.flatMap (tagLiterals values [])
  | .typeList _ tags (some items) values => tags.flatMap (tagLiterals values items.literals)
  | .object _ (some properties) _ _ => literalsOfProperties properties
  | .object _ none _ (.schema node) => node.literals
  | .array _ (some items) => items.literals
  | .enumeration _ _ values => values
  | .constant _ value => [value]
  | .object _ none _ .unspecified | .object _ none _ (.allowed _) | .array _ none
  | .reference _ _ | .primitive _ _ | .unknown _ => []

/-- The literals of members. -/
def literalsOfMembers : List SchemaNode → List Value
  | [] => []
  | member :: rest => member.literals ++ literalsOfMembers rest

/-- The literals of properties. -/
def literalsOfProperties : List (String × SchemaNode) → List Value
  | [] => []
  | (_, node) :: rest => node.literals ++ literalsOfProperties rest

end

namespace TypeExpr

theorem unrenderableMember?_eq_findSome? (members : List TypeExpr) :
    unrenderableMember? members = members.findSome? unrenderable? := by
  induction members with
  | nil => rfl
  | cons member rest inductionHypothesis =>
    rw [unrenderableMember?, List.findSome?_cons, inductionHypothesis]
    cases member.unrenderable? <;> rfl

theorem unrenderable?_nullableIf (notes : Annotations) (type : TypeExpr) :
    (nullableIf notes type).unrenderable? = type.unrenderable? := by
  unfold nullableIf
  split <;> rfl

theorem unrenderable?_literalUnion (values : List Value) :
    (literalUnion values).unrenderable? = values.findSome? Json.unwritable? := by
  rw [literalUnion, unrenderable?, unrenderableMember?_eq_findSome?, List.findSome?_map]
  rfl

theorem unrenderable?_primitiveType (tag : String) : (primitiveType tag).unrenderable? = none := by
  unfold primitiveType
  split <;> rfl

theorem unrenderable?_tagType (values : Option (List Value)) (items : TypeExpr)
    {literals : List Value} {tag : String}
    (right : tag = "array" → items.unrenderable? = literals.findSome? Json.unwritable?) :
    (tagType values items tag).unrenderable? =
      (tagLiterals values literals tag).findSome? Json.unwritable? := by
  unfold tagType tagLiterals
  by_cases isText : tag = "string"
  · subst isText
    cases values with
    | some values => exact unrenderable?_literalUnion values
    | none => rfl
  · by_cases isArray : tag = "array"
    · subst isArray
      exact right rfl
    · simp only [beq_iff_eq, isText, isArray, if_false]
      split
      · next same => exact absurd (beq_iff_eq.1 same) isText
      · split
        · rfl
        · exact unrenderable?_primitiveType tag

theorem unrenderable?_of_discriminatedMembers {propertyName identifier : String}
    {mapping : List (String × String)} {types : List TypeExpr}
    (made : (discriminatedMembers propertyName identifier mapping).result = .ok types) :
    unrenderableMember? types = none := by
  induction mapping generalizing types with
  | nil =>
    cases made
    rfl
  | cons entry rest inductionHypothesis =>
    simp only [discriminatedMembers, Assembly.result_bind_eq_ok_iff, Assembly.result_pure,
      Except.ok.injEq] at made
    obtain ⟨target, _, others, madeOthers, rfl⟩ := made
    rw [unrenderableMember?, inductionHypothesis madeOthers]
    rfl

theorem unrenderable?_of_tagTypes {values : Option (List Value)} {items : Assembly TypeExpr}
    {literals : List Value}
    (right : ∀ type, items.result = .ok type →
      type.unrenderable? = literals.findSome? Json.unwritable?)
    {tags : List String} {types : List TypeExpr}
    (made : (tagTypes values items tags).result = .ok types) :
    unrenderableMember? types =
      (tags.flatMap (tagLiterals values literals)).findSome? Json.unwritable? := by
  rw [unrenderableMember?_eq_findSome?]
  induction tags generalizing types with
  | nil =>
    cases made
    rfl
  | cons tag rest inductionHypothesis =>
    have one : ∃ itemType others, (tag = "array" → items.result = .ok itemType) ∧
        (tagTypes values items rest).result = .ok others ∧
        types = tagType values itemType tag :: others := by
      unfold tagTypes at made
      dsimp only at made
      split at made
      · simp only [Assembly.result_bind_eq_ok_iff, Assembly.result_pure, Except.ok.injEq] at made
        obtain ⟨itemType, resolved, others, madeOthers, rfl⟩ := made
        exact ⟨itemType, others, fun _ => resolved, madeOthers, rfl⟩
      · next other =>
        simp only [Assembly.result_bind_eq_ok_iff, Assembly.result_pure, Except.ok.injEq] at made
        obtain ⟨itemType, _, others, madeOthers, rfl⟩ := made
        exact ⟨itemType, others, fun same => absurd (beq_iff_eq.2 same) other, madeOthers, rfl⟩
    obtain ⟨itemType, others, resolved, madeOthers, rfl⟩ := one
    rw [List.findSome?_cons, List.flatMap_cons, List.findSome?_append,
      ← inductionHypothesis madeOthers,
      ← unrenderable?_tagType values itemType fun isArray => right itemType (resolved isArray)]
    cases (tagType values itemType tag).unrenderable? <;> rfl

end TypeExpr

open TypeExpr

mutual

/-- The text of the type of a schema fails with the first of its literals that has none. -/
theorem unrenderable?_of_resolve {node : SchemaNode} {type : TypeExpr}
    (resolved : (resolve node).result = .ok type) :
    type.unrenderable? = node.literals.findSome? Json.unwritable? := by
  match node with
  | .reference _ _ =>
    cases resolved
    rfl
  | .composition _ operator members discriminator =>
    have members' {make : List TypeExpr → TypeExpr}
        (same : ∀ types, (make types).unrenderable? = unrenderableMember? types)
        (made : (do
          let types ← resolveMembers members
          pure (make types) : Assembly TypeExpr).result = .ok type) :
        type.unrenderable? = (literalsOfMembers members).findSome? Json.unwritable? := by
      simp only [Assembly.result_bind_eq_ok_iff, Assembly.result_pure, Except.ok.injEq] at made
      obtain ⟨types, madeTypes, rfl⟩ := made
      rw [same, unrenderable?_of_resolveMembers madeTypes]
    unfold resolve at resolved
    unfold SchemaNode.literals
    cases operator with
    | anyOf => exact members' (fun _ => rfl) resolved
    | allOf => exact members' (fun _ => rfl) resolved
    | oneOf =>
      cases usable : Discriminator.usable? discriminator with
      | none =>
        rw [usable] at resolved
        exact members' (fun _ => rfl) resolved
      | some found =>
        rw [usable] at resolved
        simp only [Assembly.result_bind_eq_ok_iff, Assembly.result_pure, Except.ok.injEq]
          at resolved
        obtain ⟨_, _, variants, made, rfl⟩ := resolved
        exact unrenderable?_of_discriminatedMembers made
  | .typeList _ tags none values =>
    cases resolved
    have unknown (type : TypeExpr) (same : (pure .unknown : Assembly TypeExpr).result = .ok type) :
        type.unrenderable? = ([] : List Value).findSome? Json.unwritable? := by
      cases same
      rfl
    exact unrenderable?_of_tagTypes unknown (result_tagTypes values rfl tags)
  | .typeList _ tags (some items) values =>
    simp only [resolve, Assembly.result_bind_eq_ok_iff, Assembly.result_pure, Except.ok.injEq]
      at resolved
    obtain ⟨types, made, rfl⟩ := resolved
    exact unrenderable?_of_tagTypes (fun _ => unrenderable?_of_resolve) made
  | .constant _ value =>
    cases resolved
    exact List.findSome?_singleton.symm
  | .object notes (some properties) required _ =>
    simp only [resolve, Assembly.result_bind_eq_ok_iff, Assembly.result_pure, Except.ok.injEq]
      at resolved
    obtain ⟨fields, made, rfl⟩ := resolved
    rw [unrenderable?_nullableIf]
    exact unrenderable?_of_resolveProperties made
  | .object notes none _ (.schema values) =>
    simp only [resolve, Assembly.result_bind_eq_ok_iff, Assembly.result_pure, Except.ok.injEq]
      at resolved
    obtain ⟨valueType, made, rfl⟩ := resolved
    rw [unrenderable?_nullableIf]
    show valueType.unrenderable? = values.literals.findSome? Json.unwritable?
    exact unrenderable?_of_resolve made
  | .array notes (some items) =>
    simp only [resolve, Assembly.result_bind_eq_ok_iff, Assembly.result_pure, Except.ok.injEq]
      at resolved
    obtain ⟨itemType, made, rfl⟩ := resolved
    rw [unrenderable?_nullableIf]
    show itemType.unrenderable? = items.literals.findSome? Json.unwritable?
    exact unrenderable?_of_resolve made
  | .enumeration notes _ values =>
    cases resolved
    rw [unrenderable?_nullableIf, unrenderable?_literalUnion]
    rfl
  | .primitive notes tag =>
    cases resolved
    rw [unrenderable?_nullableIf, unrenderable?_primitiveType]
    rfl
  | .object notes none _ .unspecified | .object notes none _ (.allowed _) | .array notes none
  | .unknown notes =>
    cases resolved
    rw [unrenderable?_nullableIf]
    rfl

theorem unrenderable?_of_resolveMembers {members : List SchemaNode} {types : List TypeExpr}
    (made : (resolveMembers members).result = .ok types) :
    unrenderableMember? types = (literalsOfMembers members).findSome? Json.unwritable? := by
  match members with
  | [] =>
    cases made
    rfl
  | member :: rest =>
    simp only [resolveMembers, Assembly.result_bind_eq_ok_iff, Assembly.result_pure,
      Except.ok.injEq] at made
    obtain ⟨type, resolved, others, madeOthers, rfl⟩ := made
    rw [unrenderableMember?, literalsOfMembers, List.findSome?_append,
      ← unrenderable?_of_resolve resolved, ← unrenderable?_of_resolveMembers madeOthers]
    cases type.unrenderable? <;> rfl

theorem unrenderable?_of_resolveProperties {required : List String}
    {properties : List (String × SchemaNode)} {fields : List (FieldLabel × TypeExpr)}
    (made : (resolveProperties required properties).result = .ok fields) :
    unrenderableField? fields = (literalsOfProperties properties).findSome? Json.unwritable? := by
  match properties with
  | [] =>
    cases made
    rfl
  | (name, node) :: rest =>
    simp only [resolveProperties, Assembly.result_bind_eq_ok_iff, Assembly.result_pure,
      Except.ok.injEq] at made
    obtain ⟨_, _, type, resolved, _, _, others, madeOthers, rfl⟩ := made
    rw [unrenderableField?, literalsOfProperties, List.findSome?_append,
      ← unrenderable?_of_resolve resolved, ← unrenderable?_of_resolveProperties madeOthers]
    cases type.unrenderable? <;> rfl

end

/-! ### JSON values -/

theorem areJson_append {first second : List Value} (json : Value.areJson first = true)
    (json' : Value.areJson second = true) : Value.areJson (first ++ second) = true := by
  rw [Value.areJson_iff] at json json' ⊢
  exact List.forall_mem_append.2 ⟨json, json'⟩

theorem areJson_flatMap_tagLiterals {values : Option (List Value)}
    (json : Value.areJson (values.getD []) = true) {items : List Value}
    (parts : Value.areJson items = true) (tags : List String) :
    Value.areJson (tags.flatMap (tagLiterals values items)) = true := by
  rw [Value.areJson_iff] at json parts ⊢
  intro literal member
  obtain ⟨tag, _, here⟩ := List.mem_flatMap.1 member
  unfold tagLiterals at here
  split at here
  · exact json literal here
  · split at here
    · exact parts literal here
    · cases here

mutual

/-- A schema over JSON values has JSON values for literals. -/
theorem areJson_literals {node : SchemaNode} (json : node.isJson = true) :
    Value.areJson node.literals = true := by
  match node with
  | .composition _ operator members discriminator =>
    simp only [SchemaNode.isJson, Bool.and_eq_true] at json
    unfold SchemaNode.literals
    split
    · rfl
    · exact areJson_literalsOfMembers json.2
  | .typeList _ tags none values =>
    simp only [SchemaNode.isJson, Bool.and_eq_true] at json
    exact areJson_flatMap_tagLiterals json.2 rfl tags
  | .typeList _ tags (some items) values =>
    simp only [SchemaNode.isJson, Bool.and_eq_true] at json
    exact areJson_flatMap_tagLiterals json.2 (areJson_literals json.1.2) tags
  | .object _ (some properties) _ _ =>
    simp only [SchemaNode.isJson, Bool.and_eq_true] at json
    exact areJson_literalsOfProperties json.1.2
  | .object _ none _ (.schema values) =>
    simp only [SchemaNode.isJson, Additional.isJson, Bool.and_eq_true] at json
    show Value.areJson values.literals = true
    exact areJson_literals json.2
  | .array _ (some items) =>
    simp only [SchemaNode.isJson, Bool.and_eq_true] at json
    show Value.areJson items.literals = true
    exact areJson_literals json.2
  | .enumeration _ _ values =>
    simp only [SchemaNode.isJson, Bool.and_eq_true] at json
    exact json.2
  | .constant _ value =>
    simp only [SchemaNode.isJson, Bool.and_eq_true] at json
    simp [SchemaNode.literals, Value.areJson, json.2]
  | .object _ none _ .unspecified | .object _ none _ (.allowed _) | .array _ none
  | .reference _ _ | .primitive _ _ | .unknown _ => rfl

theorem areJson_literalsOfMembers {members : List SchemaNode}
    (json : areJsonMembers members = true) : Value.areJson (literalsOfMembers members) = true := by
  match members with
  | [] => rfl
  | member :: rest =>
    rw [areJsonMembers, Bool.and_eq_true] at json
    exact areJson_append (areJson_literals json.1) (areJson_literalsOfMembers json.2)

theorem areJson_literalsOfProperties {properties : List (String × SchemaNode)}
    (json : areJsonProperties properties = true) :
    Value.areJson (literalsOfProperties properties) = true := by
  match properties with
  | [] => rfl
  | (_, node) :: rest =>
    rw [areJsonProperties, Bool.and_eq_true] at json
    exact areJson_append (areJson_literals json.1) (areJson_literalsOfProperties json.2)

end

/-- Every JSON value has a text. -/
theorem findSome?_unwritable?_of_areJson {values : List Value}
    (json : Value.areJson values = true) : values.findSome? Json.unwritable? = none :=
  List.findSome?_eq_none_iff.2 fun value member =>
    Value.unwritable?_of_isJson ((Value.areJson_iff values).1 json value member)

end ClientModel
