/-
This file says which schemas are resolved on the way to the type of a schema: its parts, the parts
of these, and so on. Annotations hold no schemas, and of a composition whose members are told apart
by a property only the mapping counts. The main statements are the induction that goes with parts,
and that every schema that a reading uses is a reading too: so it is not empty where it lists
values, and it names each property and each entry of a mapping once.
-/

import ClientModel.Proofs.SchemaMeaning
import Mathlib.Logic.Relation

namespace ClientModel

/-- The property that tells the members of a choice apart, with the mapping of its values. -/
def Operator.toldApart? : Operator → Option Discriminator → Option (String × List (String × String))
  | .oneOf, discriminator => Discriminator.usable? discriminator
  | .anyOf, _ | .allOf, _ => none

namespace SchemaNode

/-- `toldApart?` of a composition; any other schema has no members. -/
def toldApart? : SchemaNode → Option (String × List (String × String))
  | .composition _ operator _ discriminator => operator.toldApart? discriminator
  | .reference _ _ | .primitive _ _ | .enumeration _ _ _ | .constant _ _ | .array _ _
  | .object _ _ _ _ | .typeList _ _ _ _ | .unknown _ => none

/-! ### Parts -/

/-- The schemas that are resolved for the type of a schema. -/
def parts : SchemaNode → List SchemaNode
  | .composition _ operator members discriminator =>
    if (operator.toldApart? discriminator).isSome then [] else members
  | .typeList _ tags items _ => if "array" ∈ tags then items.toList else []
  | .array _ items => items.toList
  | .object _ (some properties) _ _ => properties.map Prod.snd
  | .object _ none _ (.schema node) => [node]
  | .object _ none _ .unspecified | .object _ none _ (.allowed _) | .reference _ _
  | .primitive _ _ | .enumeration _ _ _ | .constant _ _ | .unknown _ => []

/-- A schema uses another: itself, or what one of its parts uses. -/
def Uses : SchemaNode → SchemaNode → Prop :=
  Relation.ReflTransGen fun whole part => part ∈ whole.parts

mutual

/-- What holds of a schema as soon as it holds of its parts holds of every schema. -/
theorem inductionOnParts {motive : SchemaNode → Prop}
    (step : ∀ node : SchemaNode, (∀ part ∈ node.parts, motive part) → motive node)
    (node : SchemaNode) : motive node := by
  refine step node ?_
  match node with
  | .composition _ operator members discriminator =>
    rw [parts]
    split
    · exact nofun
    · exact inductionOnSchemas step members
  | .typeList _ tags (some items) _ =>
    rw [parts]
    split
    · exact List.forall_mem_singleton.2 (inductionOnParts step items)
    · exact nofun
  | .array _ (some inner) | .object _ none _ (.schema inner) =>
    exact List.forall_mem_singleton.2 (inductionOnParts step inner)
  | .object _ (some properties) _ _ =>
    exact List.forall_mem_map.2 (inductionOnProperties step properties)
  | .typeList _ _ none _ => simp [parts]
  | .object _ none _ .unspecified | .object _ none _ (.allowed _) | .array _ none
  | .reference _ _ | .primitive _ _ | .enumeration _ _ _ | .constant _ _ | .unknown _ =>
    exact nofun

theorem inductionOnSchemas {motive : SchemaNode → Prop}
    (step : ∀ node : SchemaNode, (∀ part ∈ node.parts, motive part) → motive node)
    (members : List SchemaNode) : ∀ member ∈ members, motive member := by
  match members with
  | [] => exact nofun
  | first :: rest =>
    exact List.forall_mem_cons.2 ⟨inductionOnParts step first, inductionOnSchemas step rest⟩

theorem inductionOnProperties {motive : SchemaNode → Prop}
    (step : ∀ node : SchemaNode, (∀ part ∈ node.parts, motive part) → motive node)
    (properties : List (String × SchemaNode)) : ∀ property ∈ properties, motive property.2 := by
  match properties with
  | [] => exact nofun
  | (_, node) :: rest =>
    exact List.forall_mem_cons.2 ⟨inductionOnParts step node, inductionOnProperties step rest⟩

end

/-! ### Readings -/

/-- A schema that is not empty where it lists values, and that names each of its properties and each
entry of its mapping once. -/
def IsRegular : SchemaNode → Prop
  | .enumeration _ _ values => values ≠ []
  | .object _ (some properties) _ _ => (properties.map Prod.fst).Nodup
  | .composition _ operator _ discriminator =>
    ∀ found ∈ operator.toldApart? discriminator, (found.2.map Prod.fst).Nodup
  | .object _ none _ _ | .typeList _ _ _ _ | .array _ _ | .reference _ _ | .primitive _ _
  | .constant _ _ | .unknown _ => True

theorem IsRegular.nodup_mapping {node : SchemaNode} (right : node.IsRegular)
    {propertyName : String} {mapping : List (String × String)}
    (told : node.toldApart? = some (propertyName, mapping)) : (mapping.map Prod.fst).Nodup := by
  cases node with
  | composition _ _ _ _ => exact right _ told
  | reference _ _ | primitive _ _ | enumeration _ _ _ | constant _ _ | array _ _ | object _ _ _ _
  | typeList _ _ _ _ | unknown _ => cases told

/-- A schema that some value writes. -/
def IsReading (node : SchemaNode) : Prop := ∃ raw, node = parseSchema raw

/-- A regular schema whose parts are readings. -/
structure HoldsReadings (node : SchemaNode) : Prop where
  regular : node.IsRegular
  parts : ∀ part ∈ node.parts, part.IsReading

end SchemaNode

theorem parseMembers_eq_map (items : List Value) : parseMembers items = items.map parseSchema := by
  induction items with
  | nil => rfl
  | cons item rest inductionHypothesis => rw [parseMembers, inductionHypothesis, List.map_cons]

section

variable (keyword : String) (entries : Entries)

theorem isReading_schemaUnder : ∀ node ∈ schemaUnder keyword entries, node.IsReading := by
  intro node found
  rw [schemaUnder_eq] at found
  split at found
  · exact ⟨_, (Option.some.inj found).symm⟩
  · cases found

theorem isReading_membersUnder :
    ∀ members ∈ membersUnder keyword entries, ∀ member ∈ members, member.IsReading := by
  intro members found
  rw [membersUnder_eq] at found
  split at found
  · rw [← Option.some.inj found, parseMembers_eq_map]
    exact List.forall_mem_map.2 fun item _ => ⟨item, rfl⟩
  · cases found

theorem isReading_propertiesUnder :
    ∀ properties ∈ propertiesUnder keyword entries,
      (properties.map Prod.fst).Nodup ∧ ∀ property ∈ properties, property.2.IsReading := by
  intro properties found
  rw [propertiesUnder_eq] at found
  split at found
  · rw [← Option.some.inj found, parseProperties_eq_map]
    refine ⟨Placement.nodup_keys_ofList _, fun property member => ?_⟩
    obtain ⟨_, _, rfl⟩ := List.mem_map.1 (Placement.mem_of_mem_ofList member)
    exact ⟨_, rfl⟩
  · cases found

theorem isReading_additionalUnder :
    ∀ node, additionalUnder keyword entries = .schema node → node.IsReading := by
  intro node found
  rw [additionalUnder_eq] at found
  split at found
  · cases found
  · exact ⟨_, (Additional.schema.inj found).symm⟩
  · cases found

end

/-- The entries of a mapping that is read have different keys. -/
theorem Operator.nodup_toldApart? (operator : Operator) (value : Value) :
    ∀ found ∈ operator.toldApart? (Discriminator.ofValue value),
      (found.2.map Prod.fst).Nodup := by
  intro found told
  unfold toldApart? Discriminator.usable? Discriminator.ofValue at told
  split at told
  · split at told
    · next propertyName mapping read =>
      split at told
      · cases told
      · obtain ⟨entries, _, same⟩ := Option.map_eq_some_iff.1 read
        obtain ⟨parts, _, made⟩ := Option.map_eq_some_iff.1 (Discriminator.mk.inj same).2
        rw [← Option.some.inj told, ← made]
        exact Placement.nodup_keys_ofList _
    · cases told
  · cases told
  · cases told

theorem ne_nil_of_filledItems? {value : Value} {items : List Value}
    (found : filledItems? value = some items) : items ≠ [] := by
  unfold filledItems? at found
  split at found
  · rw [← Option.some.inj found]
    exact List.cons_ne_nil _ _
  · cases found

/-! ### What readings hold -/

theorem holdsReadings_composition (notes : Annotations) (operator : Operator) {keyword : String}
    {entries : Entries} {members : List SchemaNode}
    (found : membersUnder keyword entries = some members) (value : Value) :
    (SchemaNode.composition notes operator members
      (Discriminator.ofValue value)).HoldsReadings where
  regular := operator.nodup_toldApart? value
  parts := by
    rw [SchemaNode.parts]
    split
    · exact nofun
    · exact isReading_membersUnder keyword entries members found

theorem holdsReadings_typeList (notes : Annotations) (tags : List String)
    (values : Option (List Value)) (keyword : String) (entries : Entries) :
    (SchemaNode.typeList notes tags (schemaUnder keyword entries) values).HoldsReadings where
  regular := trivial
  parts := by
    rw [SchemaNode.parts]
    split
    · simpa using isReading_schemaUnder keyword entries
    · exact nofun

theorem holdsReadings_array (notes : Annotations) (keyword : String) (entries : Entries) :
    (SchemaNode.array notes (schemaUnder keyword entries)).HoldsReadings where
  regular := trivial
  parts := by
    rw [SchemaNode.parts]
    simpa using isReading_schemaUnder keyword entries

theorem holdsReadings_object (notes : Annotations) (required : List String)
    (entries : Entries) :
    (SchemaNode.object notes (propertiesUnder "properties" entries) required
      (additionalUnder "additionalProperties" entries)).HoldsReadings := by
  cases named : propertiesUnder "properties" entries with
  | some properties =>
    obtain ⟨distinct, readings⟩ := isReading_propertiesUnder _ _ properties named
    exact ⟨distinct, List.forall_mem_map.2 readings⟩
  | none =>
    cases beside : additionalUnder "additionalProperties" entries with
    | schema node =>
      exact ⟨trivial, List.forall_mem_singleton.2 (isReading_additionalUnder _ _ node beside)⟩
    | unspecified | allowed _ => exact ⟨trivial, nofun⟩

theorem holdsReadings_baseShape (notes : Annotations) (entries : Entries) :
    (baseShape notes entries ⟨propertiesUnder "properties" entries, schemaUnder "items" entries,
      additionalUnder "additionalProperties" entries⟩).HoldsReadings := by
  have object := holdsReadings_object notes (textsIn (entries.get "required")) entries
  unfold baseShape
  dsimp only
  split
  · split
    · next values _ found => exact ⟨ne_nil_of_filledItems? found, nofun⟩
    · split
      · exact object
      · split
        · exact holdsReadings_array notes "items" entries
        · split <;> exact ⟨trivial, nofun⟩
  · split
    · exact object
    · exact ⟨trivial, nofun⟩
  · exact ⟨trivial, nofun⟩

/-- The schema that a value writes is regular and so are its parts, which values write too. -/
theorem holdsReadings_parseSchema (raw : Value) : (parseSchema raw).HoldsReadings := by
  cases raw with
  | map entries =>
    -- A reference, the compositions, a list of types, a constant, and then the shape.
    unfold parseSchema
    split
    · exact ⟨trivial, List.forall_mem_nil _⟩
    · split
      · next members found => exact holdsReadings_composition _ .anyOf found _
      · next members _ found => exact holdsReadings_composition _ .oneOf found _
      · next members _ _ found => exact holdsReadings_composition _ .allOf found _
      · split
        · exact holdsReadings_typeList _ _ _ "items" entries
        · exact ⟨trivial, List.forall_mem_nil _⟩
        · exact holdsReadings_baseShape _ entries
  | scalar _ | list _ | set _ | pair _ _ | knot _ _ | again _ _ =>
    exact ⟨trivial, List.forall_mem_nil _⟩

/-- Every schema that a reading uses is a reading. -/
theorem isReading_of_uses {raw : Value} {used : SchemaNode} (uses : (parseSchema raw).Uses used) :
    used.IsReading := by
  induction uses with
  | refl => exact ⟨raw, rfl⟩
  | tail _ member inductionHypothesis =>
    obtain ⟨whole, rfl⟩ := inductionHypothesis
    exact (holdsReadings_parseSchema whole).parts _ member

/-- Every schema that a reading uses is regular. -/
theorem isRegular_of_uses {raw : Value} {used : SchemaNode} (uses : (parseSchema raw).Uses used) :
    used.IsRegular := by
  obtain ⟨whole, rfl⟩ := isReading_of_uses uses
  exact (holdsReadings_parseSchema whole).regular

end ClientModel
