/-
This file proves that the types of schemas stay inside a grammar: no type stands for a missing
content, only some kinds of types are nullable, and an object names each field once. A type is put
together from the types of the parts of its schema, so it is enough to look at how this is done
once. The main statement is that everything in the type of a schema keeps to the grammar, and that
a choice whose members are told apart by a property has a union with one member for each entry of
the mapping, wherever in the schema it stands.
-/

import ClientModel.Proofs.JsonDocument
import ClientModel.Proofs.SchemaParts
import ClientModel.Proofs.TypeParts

namespace ClientModel

/-! ### Regular types -/

namespace TypeExpr

/-- A type that can be nullable. Of the unions only those of literals can. -/
def MayBeNull : TypeExpr → Prop
  | .primitive _ | .array _ | .mapping _ | .object _ | .unknown => True
  | .union members => members ≠ [] ∧ ∀ member ∈ members, ∃ value, member = .literal value
  | .named _ | .literal _ | .intersection _ | .nullable _ | .noContent => False

/-- A type of the grammar, as far as its outermost form goes. -/
def IsRegular : TypeExpr → Prop
  | .noContent => False
  | .nullable inner => inner.MayBeNull
  | .object fields => (fields.map fun field => field.1.name).Nodup
  | .named _ | .primitive _ | .literal _ | .array _ | .mapping _ | .union _ | .intersection _
  | .unknown => True

/-- A type of the grammar. -/
def IsRegularThroughout (type : TypeExpr) : Prop :=
  ∀ inner, type.Contains inner → inner.IsRegular

theorem isRegularThroughout_iff (type : TypeExpr) :
    type.IsRegularThroughout ↔ type.IsRegular ∧ ∀ part ∈ type.parts, part.IsRegularThroughout :=
  forall_contains_iff type

theorem isRegularThroughout_of_no_parts {type : TypeExpr} (right : type.IsRegular)
    (partless : type.parts = []) : type.IsRegularThroughout := by
  refine (isRegularThroughout_iff type).2 ⟨right, ?_⟩
  rw [partless]
  exact List.forall_mem_nil _

theorem isRegularThroughout_union {members : List TypeExpr}
    (each : ∀ member ∈ members, member.IsRegularThroughout) :
    (union members).IsRegularThroughout :=
  (isRegularThroughout_iff _).2 ⟨trivial, each⟩

theorem isRegularThroughout_nullableIf (notes : Annotations) {type : TypeExpr}
    (right : type.IsRegularThroughout) (allowed : type.MayBeNull) :
    (nullableIf notes type).IsRegularThroughout := by
  unfold nullableIf
  split
  · exact (isRegularThroughout_iff _).2 ⟨allowed, List.forall_mem_singleton.2 right⟩
  · exact right

theorem contains_nullableIf (notes : Annotations) (type : TypeExpr) :
    (nullableIf notes type).Contains type := by
  unfold nullableIf
  split
  · exact .of_mem_parts (List.mem_singleton_self type)
  · exact .refl type

theorem isRegularThroughout_unknown : unknown.IsRegularThroughout :=
  isRegularThroughout_of_no_parts trivial rfl

theorem isRegularThroughout_literalUnion (values : List Value) :
    (literalUnion values).IsRegularThroughout :=
  isRegularThroughout_union (List.forall_mem_map.2 fun _ _ =>
    isRegularThroughout_of_no_parts trivial rfl)

theorem isRegularThroughout_primitiveType (tag : String) :
    (primitiveType tag).IsRegularThroughout := by
  unfold primitiveType
  split <;> exact isRegularThroughout_of_no_parts trivial rfl

theorem mayBeNull_primitiveType (tag : String) : (primitiveType tag).MayBeNull := by
  unfold primitiveType
  split <;> trivial

theorem isRegularThroughout_tagType (values : Option (List Value)) {items : TypeExpr}
    (right : items.IsRegularThroughout) (tag : String) :
    (tagType values items tag).IsRegularThroughout := by
  unfold tagType
  split
  · exact isRegularThroughout_literalUnion _
  · split
    · exact (isRegularThroughout_iff _).2 ⟨trivial, List.forall_mem_singleton.2 right⟩
    · split
      · exact (isRegularThroughout_iff _).2
          ⟨trivial, List.forall_mem_singleton.2 isRegularThroughout_unknown⟩
      · exact isRegularThroughout_primitiveType tag

end TypeExpr

/-- The member of a choice that an entry of a mapping stands for: the type that the entry names, as
an object in which the property has the key of the entry. -/
def variantType (propertyName : String) (entry : String × String) : TypeExpr :=
  .intersection [.named (Naming.typeIdentifier (mappedTarget entry.1 entry.2)),
    .object [(⟨propertyName, Naming.propertyIdentifier propertyName, false, none⟩,
      .literal (.string entry.1))]]

open TypeExpr

theorem isRegularThroughout_variantType (propertyName : String) (entry : String × String) :
    (variantType propertyName entry).IsRegularThroughout := by
  have tag : (tagObject propertyName (Naming.propertyIdentifier propertyName)
      entry.1).IsRegularThroughout :=
    (isRegularThroughout_iff _).2 ⟨List.nodup_singleton _,
      List.forall_mem_singleton.2 (isRegularThroughout_of_no_parts trivial rfl)⟩
  refine (isRegularThroughout_iff _).2 ⟨trivial, List.forall_mem_cons.2 ⟨?_, ?_⟩⟩
  · exact isRegularThroughout_of_no_parts trivial rfl
  · exact List.forall_mem_singleton.2 tag

/-! ### Types of schemas -/

/-- The type of a schema is built from the types of its parts: it contains these, and keeps to the
grammar if the schema is regular and they do. -/
structure IsBuilt (node : SchemaNode) (type : TypeExpr) : Prop where
  holds : ∀ part ∈ node.parts, ∃ inner, (resolve part).result = .ok inner ∧ type.Contains inner
  regular : node.IsRegular →
    (∀ part ∈ node.parts, ∀ inner, (resolve part).result = .ok inner →
      inner.IsRegularThroughout) → type.IsRegularThroughout

section

variable {node : SchemaNode} {type : TypeExpr}

/-- A type has the types of the parts of its schema as its parts. -/
theorem isBuilt_of_forall₂ (regular : node.IsRegular → type.IsRegular)
    (each : List.Forall₂ (fun part inner => (resolve part).result = .ok inner) node.parts
      type.parts) : IsBuilt node type where
  holds part member := by
    obtain ⟨inner, among, resolved⟩ := Placement.exists_mem_of_forall₂ each member
    exact ⟨inner, resolved, .of_mem_parts among⟩
  regular right parts := by
    refine (isRegularThroughout_iff type).2 ⟨regular right, fun inner among => ?_⟩
    obtain ⟨part, member, resolved⟩ := Placement.exists_mem_of_forall₂ each.flip among
    exact parts part member inner resolved

theorem isBuilt_of_no_parts (regular : type.IsRegularThroughout) (partless : node.parts = []) :
    IsBuilt node type where
  holds part member := by
    rw [partless] at member
    cases member
  regular _ _ := regular

theorem IsBuilt.nullableIf (built : IsBuilt node type) (notes : Annotations)
    (allowed : node.IsRegular → type.MayBeNull) : IsBuilt node (nullableIf notes type) where
  holds part member := by
    obtain ⟨inner, resolved, contained⟩ := built.holds part member
    exact ⟨inner, resolved, (contains_nullableIf notes type).trans contained⟩
  regular right parts :=
    isRegularThroughout_nullableIf notes (built.regular right parts) (allowed right)

end

section

open Assembly

theorem forall₂_of_resolveMembers {members : List SchemaNode} {types : List TypeExpr}
    (resolved : (resolveMembers members).result = .ok types) :
    List.Forall₂ (fun part inner => (resolve part).result = .ok inner) members types := by
  induction members generalizing types with
  | nil =>
    rw [← Except.ok.inj resolved]
    exact .nil
  | cons member rest inductionHypothesis =>
    unfold resolveMembers at resolved
    simp only [result_bind_eq_ok_iff, result_pure, Except.ok.injEq] at resolved
    obtain ⟨type, first, types, further, rfl⟩ := resolved
    exact .cons first (inductionHypothesis further)

/-- Each field has the name of its property and the type of its schema. -/
theorem forall₂_of_resolveProperties {properties : List (String × SchemaNode)}
    {required : List String} {fields : List (FieldLabel × TypeExpr)}
    (resolved : (resolveProperties required properties).result = .ok fields) :
    List.Forall₂ (fun property field => field.1.name = property.1 ∧
      (resolve property.2).result = .ok field.2) properties fields := by
  induction properties generalizing fields with
  | nil =>
    rw [← Except.ok.inj resolved]
    exact .nil
  | cons property rest inductionHypothesis =>
    unfold resolveProperties at resolved
    simp only [result_bind_eq_ok_iff, result_askProperty, result_ofExcept, result_pure,
      Except.ok.injEq, exists_eq_left'] at resolved
    obtain ⟨type, first, description, _, fields, further, rfl⟩ := resolved
    exact .cons ⟨rfl, first⟩ (inductionHypothesis further)

/-- A choice whose members are told apart by a property has a union with one member for each entry
of the mapping. -/
theorem result_resolve_toldApart {node : SchemaNode} {propertyName : String}
    {mapping : List (String × String)} (told : node.toldApart? = some (propertyName, mapping)) :
    (resolve node).result = .ok (.union (mapping.map (variantType propertyName))) := by
  match node with
  | .composition _ .oneOf _ discriminator =>
    have usable : Discriminator.usable? discriminator = some (propertyName, mapping) := told
    unfold resolve
    rw [usable]
    simp only [result_bind, result_askProperty, result_discriminatedMembers]
    rfl
  | .composition _ .anyOf _ _ | .composition _ .allOf _ _ | .reference _ _ | .primitive _ _
  | .enumeration _ _ _ | .constant _ _ | .array _ _ | .object _ _ _ _ | .typeList _ _ _ _
  | .unknown _ => cases told

/-- Any other composition combines the types of its members. -/
theorem exists_of_resolve_composition {notes : Annotations} {operator : Operator}
    {members : List SchemaNode} {discriminator : Option Discriminator} {type : TypeExpr}
    (told : operator.toldApart? discriminator = none)
    (resolved : (resolve (.composition notes operator members discriminator)).result = .ok type) :
    ∃ types, (resolveMembers members).result = .ok types ∧
      (type = .union types ∨ type = .intersection types) := by
  unfold resolve at resolved
  cases operator with
  | oneOf =>
    have unusable : Discriminator.usable? discriminator = none := told
    rw [unusable] at resolved
    obtain ⟨types, each, rfl⟩ := exists_of_result_bind_pure resolved
    exact ⟨types, each, .inl rfl⟩
  | anyOf =>
    obtain ⟨types, each, rfl⟩ := exists_of_result_bind_pure resolved
    exact ⟨types, each, .inl rfl⟩
  | allOf =>
    obtain ⟨types, each, rfl⟩ := exists_of_result_bind_pure resolved
    exact ⟨types, each, .inr rfl⟩

theorem isBuilt_composition {notes : Annotations} {operator : Operator}
    {members : List SchemaNode} {discriminator : Option Discriminator} {type : TypeExpr}
    (resolved : (resolve (.composition notes operator members discriminator)).result = .ok type) :
    IsBuilt (.composition notes operator members discriminator) type := by
  cases told : operator.toldApart? discriminator with
  | some found =>
    obtain rfl := Except.ok.inj (resolved.symm.trans (result_resolve_toldApart told))
    refine isBuilt_of_no_parts ?_ (by simp [SchemaNode.parts, told])
    refine isRegularThroughout_union (List.forall_mem_map.2 fun entry _ => ?_)
    exact isRegularThroughout_variantType found.1 entry
  | none =>
    have parts : (SchemaNode.composition notes operator members discriminator).parts = members := by
      simp [SchemaNode.parts, told]
    obtain ⟨types, each, rfl | rfl⟩ := exists_of_resolve_composition told resolved
    · exact isBuilt_of_forall₂ (fun _ => trivial) (parts.symm ▸ forall₂_of_resolveMembers each)
    · exact isBuilt_of_forall₂ (fun _ => trivial) (parts.symm ▸ forall₂_of_resolveMembers each)

/-- Each name in a list of types has its type; the items are resolved for arrays only. -/
theorem forall₂_of_tagTypes {values : Option (List Value)} {items : Assembly TypeExpr}
    {tags : List String} {types : List TypeExpr}
    (resolved : (tagTypes values items tags).result = .ok types) :
    List.Forall₂ (fun tag type => ∃ itemType, type = tagType values itemType tag ∧
      (tag = "array" ∧ items.result = .ok itemType ∨ tag ≠ "array" ∧ itemType = .unknown))
      tags types := by
  induction tags generalizing types with
  | nil =>
    rw [← Except.ok.inj resolved]
    exact .nil
  | cons tag rest inductionHypothesis =>
    unfold tagTypes at resolved
    split at resolved
    · next isArray =>
      simp only [result_bind_eq_ok_iff, result_pure, Except.ok.injEq] at resolved
      obtain ⟨itemType, made, types, further, rfl⟩ := resolved
      exact .cons ⟨itemType, rfl, .inl ⟨beq_iff_eq.1 isArray, made⟩⟩ (inductionHypothesis further)
    · next different =>
      simp only [result_bind_eq_ok_iff, result_pure, Except.ok.injEq, exists_eq_left'] at resolved
      obtain ⟨types, further, rfl⟩ := resolved
      exact .cons ⟨.unknown, rfl, .inr ⟨fun same => different (beq_iff_eq.2 same), rfl⟩⟩
        (inductionHypothesis further)

/-- A list of types has its items among its parts only if it lists an array. -/
theorem isBuilt_typeList {notes : Annotations} {tags : List String} {items : SchemaNode}
    {values : Option (List Value)} {types : List TypeExpr}
    (resolved : (tagTypes values (resolve items) tags).result = .ok types) :
    IsBuilt (.typeList notes tags (some items) values) (.union types) where
  holds part member := by
    rw [SchemaNode.parts] at member
    split at member
    · next listed =>
      obtain rfl := List.mem_singleton.1 member
      obtain ⟨type, among, itemType, rfl, ⟨_, made⟩ | ⟨different, _⟩⟩ :=
        Placement.exists_mem_of_forall₂ (forall₂_of_tagTypes resolved) listed
      · have array : (TypeExpr.union types).Contains (.array itemType) := .of_mem_parts among
        exact ⟨itemType, made, array.trans (.of_mem_parts (List.mem_singleton_self itemType))⟩
      · exact absurd rfl different
    · cases member
  regular _ parts := by
    refine isRegularThroughout_union fun type among => ?_
    obtain ⟨tag, listed, itemType, rfl, ⟨rfl, made⟩ | ⟨_, rfl⟩⟩ :=
      Placement.exists_mem_of_forall₂ (forall₂_of_tagTypes resolved).flip among
    · refine isRegularThroughout_tagType values (parts items ?_ itemType made) "array"
      rw [SchemaNode.parts, if_pos listed]
      exact List.mem_singleton_self items
    · exact isRegularThroughout_tagType values isRegularThroughout_unknown tag

theorem isBuilt_object {notes : Annotations} {properties : List (String × SchemaNode)}
    {required : List String} {additional : Additional} {fields : List (FieldLabel × TypeExpr)}
    (resolved : (resolveProperties required properties).result = .ok fields) :
    IsBuilt (.object notes (some properties) required additional) (.object fields) := by
  have each := forall₂_of_resolveProperties resolved
  have names : fields.map (fun field => field.1.name) = properties.map Prod.fst :=
    Placement.map_key_of_forall₂ _ (fun _ _ made => made.1) each
  refine isBuilt_of_forall₂ (fun distinct => ?_) ?_
  · show (fields.map fun field => field.1.name).Nodup
    rw [names]
    exact distinct
  · show List.Forall₂ _ (properties.map Prod.snd) (fields.map Prod.snd)
    rw [List.forall₂_map_left_iff, List.forall₂_map_right_iff]
    exact each.imp fun _ _ made => made.2

/-- The type of a schema is built from the types of its parts. The cases are those of resolving a
schema. -/
theorem isBuilt_of_resolve {node : SchemaNode} {type : TypeExpr}
    (resolved : (resolve node).result = .ok type) : IsBuilt node type := by
  match node with
  | .reference _ pointer =>
    rw [← Except.ok.inj resolved]
    exact isBuilt_of_forall₂ (fun _ => trivial) .nil
  | .composition _ _ _ _ => exact isBuilt_composition resolved
  | .typeList _ tags none values =>
    rw [← Except.ok.inj resolved]
    refine isBuilt_of_no_parts ?_ (ite_self [])
    refine isRegularThroughout_union (List.forall_mem_map.2 fun tag _ => ?_)
    exact isRegularThroughout_tagType values isRegularThroughout_unknown tag
  | .typeList _ tags (some items) values =>
    unfold resolve at resolved
    obtain ⟨types, each, rfl⟩ := exists_of_result_bind_pure resolved
    exact isBuilt_typeList each
  | .constant _ _ =>
    rw [← Except.ok.inj resolved]
    exact isBuilt_of_forall₂ (fun _ => trivial) .nil
  | .object notes (some properties) required _ =>
    unfold resolve at resolved
    obtain ⟨fields, each, rfl⟩ := exists_of_result_bind_pure resolved
    exact (isBuilt_object each).nullableIf notes fun _ => trivial
  | .object notes none _ (.schema values) =>
    unfold resolve at resolved
    obtain ⟨valueType, made, rfl⟩ := exists_of_result_bind_pure resolved
    refine IsBuilt.nullableIf ?_ notes fun _ => trivial
    exact isBuilt_of_forall₂ (fun _ => trivial) (.cons made .nil)
  | .array notes (some items) =>
    unfold resolve at resolved
    obtain ⟨itemType, made, rfl⟩ := exists_of_result_bind_pure resolved
    refine IsBuilt.nullableIf ?_ notes fun _ => trivial
    exact isBuilt_of_forall₂ (fun _ => trivial) (.cons made .nil)
  | .object notes none _ .unspecified | .object notes none _ (.allowed _) | .array notes none =>
    rw [← Except.ok.inj resolved]
    refine (isBuilt_of_no_parts ?_ rfl).nullableIf notes fun _ => trivial
    exact (isRegularThroughout_iff _).2
      ⟨trivial, List.forall_mem_singleton.2 isRegularThroughout_unknown⟩
  | .unknown notes =>
    rw [← Except.ok.inj resolved]
    exact (isBuilt_of_no_parts isRegularThroughout_unknown rfl).nullableIf notes fun _ => trivial
  | .enumeration notes _ values =>
    rw [← Except.ok.inj resolved]
    refine (isBuilt_of_no_parts (isRegularThroughout_literalUnion values) rfl).nullableIf notes ?_
    intro (listed : values ≠ [])
    exact ⟨by simpa using listed, List.forall_mem_map.2 fun value _ => ⟨value, rfl⟩⟩
  | .primitive notes tag =>
    rw [← Except.ok.inj resolved]
    exact (isBuilt_of_no_parts (isRegularThroughout_primitiveType tag) rfl).nullableIf notes
      fun _ => mayBeNull_primitiveType tag

end

/-! ### The grammar -/

/-- What a schema uses has a type that is contained in the type of the schema. -/
theorem exists_of_uses {node used : SchemaNode} (uses : node.Uses used) {type : TypeExpr}
    (resolved : (resolve node).result = .ok type) :
    ∃ inner, (resolve used).result = .ok inner ∧ type.Contains inner := by
  induction uses with
  | refl => exact ⟨type, resolved, .refl type⟩
  | tail _ member inductionHypothesis =>
    obtain ⟨middle, made, outside⟩ := inductionHypothesis
    obtain ⟨inner, found, inside⟩ := (isBuilt_of_resolve made).holds _ member
    exact ⟨inner, found, outside.trans inside⟩

/-- The type of a schema keeps to the grammar if all schemas that it uses are regular. -/
theorem isRegularThroughout_of_resolve {node : SchemaNode}
    (right : ∀ used, node.Uses used → used.IsRegular) {type : TypeExpr}
    (resolved : (resolve node).result = .ok type) : type.IsRegularThroughout := by
  induction node using SchemaNode.inductionOnParts generalizing type with
  | step node inductionHypothesis =>
    refine (isBuilt_of_resolve resolved).regular (right node .refl) fun part member inner made => ?_
    exact inductionHypothesis part member (fun used uses => right used (.head member uses)) made

/-- A schema over JSON values has a type of the grammar. Each schema that it uses has its type in
there; a choice whose members are told apart by a property has a union, with a member for each entry
of the mapping, and no two entries have one key. -/
theorem resolve_isRegularThroughout {raw : Value} (json : raw.isJson = true) :
    ∃ type, readSchema? raw = some (parseSchema raw) ∧
      (resolve (parseSchema raw)).result = .ok type ∧
      (∀ inner, type.Contains inner → inner.IsRegular) ∧
      ∀ used, (parseSchema raw).Uses used →
        ∃ inner, (resolve used).result = .ok inner ∧ type.Contains inner ∧
          ∀ propertyName mapping, used.toldApart? = some (propertyName, mapping) →
            inner = .union (mapping.map (variantType propertyName)) ∧
              (mapping.map Prod.fst).Nodup := by
  obtain ⟨type, resolved⟩ := succeeds_resolve (isJson_parseSchema json)
  refine ⟨type, readSchema?_of_isUntied (Value.isUntied_of_isJson json), resolved, ?_, ?_⟩
  · exact isRegularThroughout_of_resolve (fun _ uses => isRegular_of_uses uses) resolved
  · intro used uses
    obtain ⟨inner, found, contained⟩ := exists_of_uses uses resolved
    refine ⟨inner, found, contained, fun propertyName mapping told => ⟨?_, ?_⟩⟩
    · exact Except.ok.inj (found.symm.trans (result_resolve_toldApart told))
    · exact (isRegular_of_uses uses).nodup_mapping told

/-- A schema of one of two sizes or null. -/
def sizeSchema : Value :=
  .map [(.string "type", .string "string"), (.string "nullable", .bool true),
    (.string "enum", .list [.string "small", .string "large"])]

/-- A schema of a pet that is told apart by its species. -/
def petSchema : Value :=
  .map [(.string "oneOf", .list []),
    (.string "discriminator", .map [(.string "propertyName", .string "species"),
      (.string "mapping", .map [(.string "cat", .string "#/components/schemas/Cat"),
        (.string "dog", .string "Dog")])])]

/-- A schema of an object with a size and a list of pets. -/
def kennelSchema : Value :=
  .map [(.string "type", .string "object"),
    (.string "properties", .map [(.string "size", sizeSchema),
      (.string "pets", .map [(.string "type", .string "array"), (.string "items", petSchema)])])]

/-- The type of a kennel contains a nullable union of sizes and a union of pets. -/
theorem resolve_isRegularThroughout_kennelSchema :
    ∃ type, kennelSchema.isJson = true ∧ (resolve (parseSchema kennelSchema)).result = .ok type ∧
      (∀ inner, type.Contains inner → inner.IsRegular) ∧
      type.Contains (.nullable (.union [.literal (.string "small"), .literal (.string "large")])) ∧
      type.Contains (.union [variantType "species" ("cat", "#/components/schemas/Cat"),
        variantType "species" ("dog", "Dog")]) := by
  have json : kennelSchema.isJson = true := by decide
  obtain ⟨type, _, resolved, regular, uses⟩ := resolve_isRegularThroughout json
  have size : (parseSchema kennelSchema).Uses (parseSchema sizeSchema) := .single (.head _)
  have pet : (parseSchema kennelSchema).Uses (parseSchema petSchema) :=
    .head (.tail _ (.head _)) (.single (.head _))
  obtain ⟨sizeType, found, sizes, _⟩ := uses _ size
  obtain ⟨_, _, pets, union⟩ := uses _ pet
  refine ⟨type, json, resolved, regular, ?_, ?_⟩
  · rw [← Except.ok.inj found] at sizes
    exact sizes
  · rw [(union _ _ rfl).1] at pets
    exact pets

end ClientModel
