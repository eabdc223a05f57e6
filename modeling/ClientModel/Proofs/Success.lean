/-
This file proves that nothing fails on documents whose free values are JSON values. A default, an
example, a listed value or a constant is free: a document may put any value there, and the model
is built only if each of them can be shown. The main statements are that every schema over JSON
values resolves to a type, and that every operation over them becomes a call.
-/

import ClientModel.Assembly.Model
import ClientModel.Proofs.Computation

namespace ClientModel

/-! ### JSON values -/

/-- A scalar of JSON. An integer counts as long as its numeral is not too long to be read. -/
def Scalar.isJson : Scalar → Bool
  | .null | .bool _ | .float _ | .string _ => true
  | .int value => !Text.isLongInteger value
  | .date _ | .timestamp _ | .binary _ => false

/-- A key of a JSON map. -/
def Scalar.isJsonKey : Scalar → Bool
  | .string _ => true
  | _ => false

namespace Value

mutual

/-- A value of JSON. -/
def isJson : Value → Bool
  | .scalar content => content.isJson
  | .list items => areJson items
  | .map entries => areAllJson entries
  | .set _ | .pair _ _ | .knot _ _ | .again _ _ => false

/-- `isJson` of all items. -/
def areJson : List Value → Bool
  | [] => true
  | item :: rest => isJson item && areJson rest

/-- `isJson` of all entries: each key is a text. -/
def areAllJson : List (Scalar × Value) → Bool
  | [] => true
  | (key, item) :: rest => key.isJsonKey && isJson item && areAllJson rest

end

theorem areJson_iff (items : List Value) :
    areJson items = true ↔ ∀ item ∈ items, item.isJson = true := by
  induction items with
  | nil => simp [areJson]
  | cons item rest inductionHypothesis => simp [areJson, inductionHypothesis]

theorem areAllJson_iff (entries : List (Scalar × Value)) :
    areAllJson entries = true ↔
      ∀ entry ∈ entries, entry.1.isJsonKey = true ∧ entry.2.isJson = true := by
  induction entries with
  | nil => simp [areAllJson]
  | cons entry rest inductionHypothesis =>
    obtain ⟨key, item⟩ := entry
    simp [areAllJson, inductionHypothesis]

mutual

/-- What holds of JSON scalars, and of a list or a map of JSON values when it holds of what is in
it, holds of every JSON value. -/
theorem inductionOnJson {motive : Value → Prop} {raw : Value} (json : raw.isJson = true)
    (scalar : ∀ content, motive (.scalar content))
    (list : ∀ items, (∀ item ∈ items, motive item) → motive (.list items))
    (map : ∀ entries, areAllJson entries = true → (∀ entry ∈ entries, motive entry.2) →
      motive (.map entries)) : motive raw := by
  match raw with
  | .scalar content => exact scalar content
  | .list items => exact list items (itemsInductionOnJson json scalar list map)
  | .map entries => exact map entries json (entriesInductionOnJson json scalar list map)
  | .set _ | .pair _ _ | .knot _ _ | .again _ _ => exact absurd json Bool.false_ne_true

theorem itemsInductionOnJson {motive : Value → Prop} {items : List Value}
    (json : areJson items = true)
    (scalar : ∀ content, motive (.scalar content))
    (list : ∀ items, (∀ item ∈ items, motive item) → motive (.list items))
    (map : ∀ entries, areAllJson entries = true → (∀ entry ∈ entries, motive entry.2) →
      motive (.map entries)) : ∀ item ∈ items, motive item := by
  match items with
  | [] => exact fun _ member => absurd member List.not_mem_nil
  | item :: rest =>
    rw [areJson, Bool.and_eq_true] at json
    exact List.forall_mem_cons.2 ⟨inductionOnJson json.1 scalar list map,
      itemsInductionOnJson json.2 scalar list map⟩

theorem entriesInductionOnJson {motive : Value → Prop} {entries : List (Scalar × Value)}
    (json : areAllJson entries = true)
    (scalar : ∀ content, motive (.scalar content))
    (list : ∀ items, (∀ item ∈ items, motive item) → motive (.list items))
    (map : ∀ entries, areAllJson entries = true → (∀ entry ∈ entries, motive entry.2) →
      motive (.map entries)) : ∀ entry ∈ entries, motive entry.2 := by
  match entries with
  | [] => exact fun _ member => absurd member List.not_mem_nil
  | (key, item) :: rest =>
    rw [areAllJson, Bool.and_eq_true, Bool.and_eq_true] at json
    exact List.forall_mem_cons.2 ⟨inductionOnJson json.1.2 scalar list map,
      entriesInductionOnJson json.2 scalar list map⟩

end

theorem areUntied_iff (items : List Value) :
    areUntied items = true ↔ ∀ item ∈ items, item.isUntied = true := by
  induction items with
  | nil => simp [areUntied]
  | cons item rest inductionHypothesis => simp [areUntied, inductionHypothesis]

theorem areAllUntied_iff (entries : List (Scalar × Value)) :
    areAllUntied entries = true ↔ ∀ entry ∈ entries, entry.2.isUntied = true := by
  induction entries with
  | nil => simp [areAllUntied]
  | cons entry rest inductionHypothesis => simp [areAllUntied, inductionHypothesis]

/-- No part of a JSON value is around itself. -/
theorem isUntied_of_isJson {raw : Value} (json : raw.isJson = true) : raw.isUntied = true :=
  inductionOnJson (motive := fun value => value.isUntied = true) json (fun _ => rfl)
    (fun items untied => (areUntied_iff items).2 untied)
    fun entries _ untied => (areAllUntied_iff entries).2 untied

theorem unwritableScalar?_of_isJson {content : Scalar} (json : content.isJson = true)
    (misfit : String → Json.Unwritable) : Json.unwritableScalar? misfit content = none := by
  cases content <;>
    simp_all [Scalar.isJson, Json.unwritableScalar?, Json.isLongInteger, Json.isWritable]

mutual

/-- A JSON value has a JSON text. -/
theorem unwritable?_of_isJson {value : Value} (json : value.isJson = true) :
    Json.unwritable? value = none := by
  match value with
  | .scalar content => exact unwritableScalar?_of_isJson json _
  | .list items => exact unwritableItem?_of_areJson (by simpa [isJson] using json)
  | .map entries => exact unwritableEntry?_of_areAllJson (by simpa [isJson] using json)
  | .set _ | .pair _ _ | .knot _ _ | .again _ _ => simp [isJson] at json

theorem unwritableItem?_of_areJson {items : List Value} (json : areJson items = true) :
    Json.unwritableItem? items = none := by
  match items with
  | [] => rfl
  | item :: rest =>
    simp only [areJson, Bool.and_eq_true] at json
    simp only [Json.unwritableItem?, unwritable?_of_isJson json.1,
      unwritableItem?_of_areJson json.2]

theorem unwritableEntry?_of_areAllJson {entries : List (Scalar × Value)}
    (json : areAllJson entries = true) : Json.unwritableEntry? entries = none := by
  match entries with
  | [] => rfl
  | (key, item) :: rest =>
    simp only [areAllJson, Bool.and_eq_true] at json
    have writtenKey : Json.unwritableScalar? .key key = none :=
      unwritableScalar?_of_isJson (by cases key <;> simp_all [Scalar.isJsonKey, Scalar.isJson]) _
    simp only [Json.unwritableEntry?, writtenKey, unwritable?_of_isJson json.1.2,
      unwritableEntry?_of_areAllJson json.2]

end

end Value

/-! ### Schemas over JSON values -/

/-- Annotations in which every value that documentation shows is a JSON value. -/
def Annotations.isJson (notes : Annotations) : Bool := Value.areJson (documentedValues notes)

mutual

/-- A schema in which every free value is a JSON value. -/
def SchemaNode.isJson : SchemaNode → Bool
  | .reference notes _ | .primitive notes _ | .unknown notes => notes.isJson
  | .enumeration notes _ values => notes.isJson && Value.areJson values
  | .constant notes value => notes.isJson && value.isJson
  | .array notes none => notes.isJson
  | .array notes (some items) => notes.isJson && items.isJson
  | .object notes none _ additional => notes.isJson && additional.isJson
  | .object notes (some properties) _ additional =>
    notes.isJson && areJsonProperties properties && additional.isJson
  | .composition notes _ members _ => notes.isJson && areJsonMembers members
  | .typeList notes _ none values => notes.isJson && Value.areJson (values.getD [])
  | .typeList notes _ (some items) values =>
    notes.isJson && items.isJson && Value.areJson (values.getD [])

/-- `isJson` of what an object may hold beside its properties. -/
def Additional.isJson : Additional → Bool
  | .unspecified | .allowed _ => true
  | .schema node => node.isJson

/-- `isJson` of all members. -/
def areJsonMembers : List SchemaNode → Bool
  | [] => true
  | member :: rest => member.isJson && areJsonMembers rest

/-- `isJson` of all properties. -/
def areJsonProperties : List (String × SchemaNode) → Bool
  | [] => true
  | (_, node) :: rest => node.isJson && areJsonProperties rest

end

theorem areJsonMembers_iff (members : List SchemaNode) :
    areJsonMembers members = true ↔ ∀ member ∈ members, member.isJson = true := by
  induction members with
  | nil => simp [areJsonMembers]
  | cons member rest inductionHypothesis => simp [areJsonMembers, inductionHypothesis]

theorem SchemaNode.isJson_notes {node : SchemaNode} (json : node.isJson = true) :
    node.notes.isJson = true := by
  cases node with
  | array _ items => cases items <;> simp_all [SchemaNode.isJson, SchemaNode.notes]
  | object _ properties _ _ =>
    cases properties <;> simp_all [SchemaNode.isJson, SchemaNode.notes]
  | typeList _ _ items _ => cases items <;> simp_all [SchemaNode.isJson, SchemaNode.notes]
  | _ => simp_all [SchemaNode.isJson, SchemaNode.notes]

/-! ### Types -/

/-- Annotations over JSON values can be described. -/
theorem succeeds_describe {notes : Annotations} (json : notes.isJson = true)
    (context : Option String) : (Assembly.ofExcept (describe notes context)).Succeeds := by
  have documentable : undocumentable? notes = none := Value.unwritableItem?_of_areJson json
  unfold describe
  rw [documentable]
  simp only
  split
  · exact ⟨_, rfl⟩
  · exact ⟨_, rfl⟩

theorem succeeds_discriminatedMembers (propertyName identifier : String)
    (mapping : List (String × String)) :
    (discriminatedMembers propertyName identifier mapping).Succeeds := by
  induction mapping with
  | nil => exact .pure _
  | cons entry rest inductionHypothesis =>
    exact (Assembly.Succeeds.askType _).bind fun _ => inductionHypothesis.bind fun _ => .pure _

theorem succeeds_tagTypes (values : Option (List Value)) {items : Assembly TypeExpr}
    (resolved : items.Succeeds) (tags : List String) :
    (tagTypes values items tags).Succeeds := by
  induction tags with
  | nil => exact .pure _
  | cons tag rest inductionHypothesis =>
    have further (itemType : TypeExpr) : (do
        let types ← tagTypes values items rest
        pure (tagType values itemType tag :: types) : Assembly (List TypeExpr)).Succeeds :=
      inductionHypothesis.bind fun _ => .pure _
    unfold tagTypes
    split
    · exact resolved.bind further
    · exact (Assembly.Succeeds.pure _).bind further

mutual

/-- A schema over JSON values resolves to a type. -/
theorem succeeds_resolve {node : SchemaNode} (json : node.isJson = true) :
    (resolve node).Succeeds := by
  match node with
  | .reference _ _ => exact (Assembly.Succeeds.askType _).bind fun _ => .pure _
  | .composition _ operator members discriminator =>
    simp only [SchemaNode.isJson, Bool.and_eq_true] at json
    unfold resolve
    split
    · exact (Assembly.Succeeds.askProperty _).bind fun _ =>
        (succeeds_discriminatedMembers _ _ _).bind fun _ => .pure _
    · exact (succeeds_resolveMembers json.2).bind fun _ => .pure _
    · exact (succeeds_resolveMembers json.2).bind fun _ => .pure _
  | .typeList _ _ none _ => exact .pure _
  | .typeList _ tags (some items) values =>
    simp only [SchemaNode.isJson, Bool.and_eq_true] at json
    exact (succeeds_tagTypes values (succeeds_resolve json.1.2) tags).bind fun _ => .pure _
  | .object _ (some properties) required _ =>
    simp only [SchemaNode.isJson, Bool.and_eq_true] at json
    exact (succeeds_resolveProperties required json.1.2).bind fun _ => .pure _
  | .object _ none _ (.schema values) =>
    simp only [SchemaNode.isJson, Additional.isJson, Bool.and_eq_true] at json
    exact (succeeds_resolve json.2).bind fun _ => .pure _
  | .object _ none _ .unspecified | .object _ none _ (.allowed _) => exact .pure _
  | .array _ (some items) =>
    simp only [SchemaNode.isJson, Bool.and_eq_true] at json
    exact (succeeds_resolve json.2).bind fun _ => .pure _
  | .array _ none | .enumeration _ _ _ | .primitive _ _ | .unknown _ | .constant _ _ =>
    exact .pure _

theorem succeeds_resolveMembers {members : List SchemaNode}
    (json : areJsonMembers members = true) : (resolveMembers members).Succeeds := by
  match members with
  | [] => exact .pure _
  | member :: rest =>
    simp only [areJsonMembers, Bool.and_eq_true] at json
    exact (succeeds_resolve json.1).bind fun _ =>
      (succeeds_resolveMembers json.2).bind fun _ => .pure _

theorem succeeds_resolveProperties {properties : List (String × SchemaNode)}
    (required : List String) (json : areJsonProperties properties = true) :
    (resolveProperties required properties).Succeeds := by
  match properties with
  | [] => exact .pure _
  | (name, node) :: rest =>
    simp only [areJsonProperties, Bool.and_eq_true] at json
    exact (Assembly.Succeeds.askProperty name).bind fun _ =>
      (succeeds_resolve json.1).bind fun _ =>
        (succeeds_describe (SchemaNode.isJson_notes json.1) (some name)).bind fun _ =>
          (succeeds_resolveProperties required json.2).bind fun _ => .pure _

end

theorem succeeds_resolveOptional {schema : Option SchemaNode}
    (json : ∀ node ∈ schema, node.isJson = true) : (resolveOptional schema).Succeeds := by
  cases schema with
  | none => exact .pure _
  | some node => exact succeeds_resolve (json node rfl)

/-! ### Documents over JSON values -/

/-- The schemas that an operation holds: of its parameters, of its body, of its responses. -/
def Operation.schemas (operation : Operation) : List SchemaNode :=
  operation.parameters.map (·.schema) ++ (operation.requestBody.bind (·.schema)).toList ++
    operation.responses.filterMap fun entry => entry.2.schema

/-- An operation whose schemas are over JSON values. -/
def Operation.isJson (operation : Operation) : Bool := areJsonMembers operation.schemas

/-- A document whose schemas are over JSON values. -/
def Document.isJson (document : Document) : Bool :=
  areJsonProperties document.schemas && document.operations.all Operation.isJson

theorem Operation.isJson_of_mem {operation : Operation} (json : operation.isJson = true)
    {node : SchemaNode} (member : node ∈ operation.schemas) : node.isJson = true :=
  (areJsonMembers_iff _).1 json node member

theorem Operation.isJson_of_parameter {operation : Operation} (json : operation.isJson = true)
    {parameter : Parameter} (member : parameter ∈ operation.parameters) :
    parameter.schema.isJson = true := by
  refine operation.isJson_of_mem json ?_
  simp only [schemas, List.mem_append, List.mem_map]
  exact Or.inl (Or.inl ⟨parameter, member, rfl⟩)

/-! ### Calls -/

namespace Assembly

theorem succeeds_argumentsOf (operationId : String) {parameters : List Parameter}
    (json : ∀ parameter ∈ parameters, parameter.schema.isJson = true) :
    (argumentsOf operationId parameters).Succeeds := by
  induction parameters with
  | nil => exact .pure _
  | cons parameter rest inductionHypothesis =>
    have others := inductionHypothesis fun other member =>
      json other (List.mem_cons_of_mem _ member)
    unfold argumentsOf
    split
    · exact (Succeeds.leave _).bind fun _ => others
    · split
      · exact (Succeeds.leaveAll _).bind fun _ => others
      · exact (Succeeds.askProperty _).bind fun _ =>
          (succeeds_resolve (json parameter List.mem_cons_self)).bind fun _ =>
            others.bind fun _ => .pure _

theorem succeeds_bodyOf {operation : Operation} (json : operation.isJson = true) :
    (bodyOf operation).Succeeds := by
  unfold bodyOf
  split
  · next body present =>
    refine (succeeds_resolveOptional fun node member => ?_).bind fun _ => .pure _
    exact operation.isJson_of_mem json (by simp_all [Operation.schemas])
  · split
    · next parameter found =>
      have member := List.mem_of_find?_eq_some found
      exact (succeeds_resolve (operation.isJson_of_parameter json member)).bind fun _ => .pure _
    · exact .pure _

theorem succeeds_responseTypeOf {operation : Operation} (json : operation.isJson = true) :
    (responseTypeOf operation).Succeeds := by
  unfold responseTypeOf
  split
  · exact .pure _
  · next response found =>
    split
    · obtain ⟨status, _, present⟩ := List.exists_of_findSome?_eq_some found
      refine succeeds_resolveOptional fun node member => operation.isJson_of_mem json ?_
      have stored := Ordered.mem_of_get? present
      simp only [Operation.schemas, List.mem_append, List.mem_filterMap]
      exact Or.inr ⟨_, stored, member⟩
    · exact .pure _

/-- An operation over JSON values becomes a call. -/
theorem succeeds_callOf {operation : Operation} (json : operation.isJson = true) :
    (callOf operation).Succeeds := by
  have arguments : (argumentsOf operation.effectiveId operation.parameters).Succeeds :=
    succeeds_argumentsOf _ fun _ member => operation.isJson_of_parameter json member
  exact (Succeeds.askPath _).bind fun _ => arguments.bind fun _ =>
    (succeeds_bodyOf json).bind fun _ => (succeeds_responseTypeOf json).bind fun _ => .pure _

theorem succeeds_placeCalls (root : Namespace) {operations : List Operation}
    (json : ∀ operation ∈ operations, operation.isJson = true) :
    (placeCalls root operations).Succeeds := by
  induction operations generalizing root with
  | nil => exact .pure _
  | cons operation rest inductionHypothesis =>
    exact (succeeds_callOf (json operation List.mem_cons_self)).bind fun _ =>
      (Succeeds.leaveAll _).bind fun _ =>
        inductionHypothesis _ fun other member => json other (List.mem_cons_of_mem _ member)

/-- The calls of a document over JSON values form a tree. -/
theorem succeeds_namespaceRoot {document : Document} (json : document.isJson = true)
    (operationIds : Option (List String)) : (namespaceRoot document operationIds).Succeeds := by
  simp only [Document.isJson, Bool.and_eq_true, List.all_eq_true] at json
  exact succeeds_placeCalls _ fun operation member => json.2 operation (List.mem_filter.1 member).1

/-! ### Models -/

theorem succeeds_askTargets (pointers : List String) : (askTargets pointers).Succeeds := by
  induction pointers with
  | nil => exact .pure _
  | cons pointer rest inductionHypothesis =>
    exact (Succeeds.askType _).bind fun _ => inductionHypothesis.bind fun _ => .pure _

/-- A named schema over JSON values becomes a declaration. -/
theorem succeeds_declarationOf (name : String) {node : SchemaNode} (json : node.isJson = true) :
    (declarationOf name node).Succeeds :=
  (Succeeds.askType _).bind fun _ => (succeeds_resolve json).bind fun _ =>
    (succeeds_describe (SchemaNode.isJson_notes json) none).bind fun _ =>
      (succeeds_askTargets _).bind fun _ => .pure _

theorem succeeds_placeDeclarations (earlier : List Declaration)
    {schemas : List (String × SchemaNode)} (json : areJsonProperties schemas = true) :
    (placeDeclarations earlier schemas).Succeeds := by
  induction schemas generalizing earlier with
  | nil => exact .pure _
  | cons entry rest inductionHypothesis =>
    obtain ⟨name, node⟩ := entry
    simp only [areJsonProperties, Bool.and_eq_true] at json
    exact (succeeds_declarationOf name json.1).bind fun _ =>
      (Succeeds.leaveAll _).bind fun _ => inductionHypothesis _ json.2

/-- The schemas of a document over JSON values become declarations. -/
theorem succeeds_declarations {document : Document} (json : document.isJson = true) :
    (declarations document).Succeeds := by
  simp only [Document.isJson, Bool.and_eq_true] at json
  exact succeeds_placeDeclarations [] json.1

end Assembly

end ClientModel
