/-
This file follows extraction through documents whose values are JSON values. Following references
leads to JSON values, and reading a schema gives one over JSON values. The main statements say of
each step, up to the operations of a document, what it gives and that it fails in its own ways
alone.
-/

import ClientModel.Proofs.Outcome
import ClientModel.Proofs.SchemaMeaning

namespace ClientModel

/-! ### Parts of JSON values -/

namespace Value

theorem opened_of_isJson {value : Value} (json : value.isJson = true) : value.opened = value :=
  opened_of_isUntied (isUntied_of_isJson json)

theorem areAllJson_of_entries? {value : Value} (json : value.isJson = true) {entries : Entries}
    (found : value.entries? = some entries) : areAllJson entries = true := by
  rw [entries?, opened_of_isJson json] at found
  cases value with
  | map others => exact Option.some.inj found ▸ json
  | scalar _ | list _ | set _ | pair _ _ | knot _ _ | again _ _ => cases found

theorem areAllJson_entriesOrEmpty {value : Value} (json : value.isJson = true) :
    areAllJson value.entriesOrEmpty = true := by
  rw [entriesOrEmpty]
  cases found : value.entries? with
  | none => rfl
  | some entries => exact areAllJson_of_entries? json found

theorem areJson_itemsOrEmpty {value : Value} (json : value.isJson = true) :
    areJson value.itemsOrEmpty = true := by
  rw [itemsOrEmpty, items?, opened_of_isJson json]
  cases value with
  | list items => exact json
  | scalar _ | map _ | set _ | pair _ _ | knot _ _ | again _ _ => rfl

end Value

/-! ### Schemas -/

theorem areJsonProperties_iff (properties : List (String × SchemaNode)) :
    areJsonProperties properties = true ↔ ∀ property ∈ properties, property.2.isJson = true := by
  induction properties with
  | nil => simp [areJsonProperties]
  | cons property rest inductionHypothesis => simp [areJsonProperties, inductionHypothesis]

section

variable {notes : Annotations} (json : notes.isJson = true)

include json

theorem SchemaNode.isJson_array {items : Option SchemaNode}
    (parts : ∀ node ∈ items, node.isJson = true) :
    (SchemaNode.array notes items).isJson = true := by
  cases items with
  | none => exact json
  | some node => simp [SchemaNode.isJson, json, parts node rfl]

theorem SchemaNode.isJson_object {properties : Option (List (String × SchemaNode))}
    (parts : ∀ nodes ∈ properties, areJsonProperties nodes = true) {additional : Additional}
    (beside : additional.isJson = true) (required : List String) :
    (SchemaNode.object notes properties required additional).isJson = true := by
  cases properties with
  | none => simp [SchemaNode.isJson, json, beside]
  | some nodes => simp [SchemaNode.isJson, json, beside, parts nodes rfl]

theorem SchemaNode.isJson_typeList {items : Option SchemaNode}
    (parts : ∀ node ∈ items, node.isJson = true) {values : Option (List Value)}
    (listed : ∀ found ∈ values, Value.areJson found = true) (tags : List String) :
    (SchemaNode.typeList notes tags items values).isJson = true := by
  have all : Value.areJson (values.getD []) = true := by
    cases values with
    | none => rfl
    | some found => exact listed found rfl
  cases items with
  | none => simp [SchemaNode.isJson, json, all]
  | some node => simp [SchemaNode.isJson, json, all, parts node rfl]

/-- The shape that a type names is over JSON values if its parts are. -/
theorem isJson_baseShape {entries : Entries}
    (listed : ∀ values ∈ filledItems? (entries.get "enum"), Value.areJson values = true)
    {parts : SubSchemas} (properties : ∀ nodes ∈ parts.properties, areJsonProperties nodes = true)
    (items : ∀ node ∈ parts.items, node.isJson = true)
    (additional : parts.additional.isJson = true) :
    (baseShape notes entries parts).isJson = true := by
  have object := SchemaNode.isJson_object json properties additional
    (textsIn (entries.get "required"))
  unfold baseShape
  dsimp only
  split
  · split
    · next values _ found => simp [SchemaNode.isJson, json, listed values found]
    · split
      · exact object
      · split
        · exact SchemaNode.isJson_array json items
        · split <;> exact json
  · split
    · exact object
    · exact json
  · exact json

end

/-- A value that gives schemas over JSON values: as a schema, as members, as properties. -/
structure Value.ParsesToJson (raw : Value) : Prop where
  schema : (parseSchema raw).isJson = true
  members : ∀ items, raw = .list items → areJsonMembers (parseMembers items) = true
  properties : ∀ entries, raw = .map entries →
    areJsonProperties (Ordered.ofList (parseProperties entries)) = true

theorem Value.parsesToJson_scalar (content : Scalar) : (Value.scalar content).ParsesToJson where
  schema := rfl
  members _ same := by cases same
  properties _ same := by cases same

theorem Value.parsesToJson_list {items : List Value} (right : ∀ item ∈ items, item.ParsesToJson) :
    (Value.list items).ParsesToJson where
  schema := rfl
  members others same := by
    obtain rfl := Value.list.inj same
    clear same
    induction items with
    | nil => rfl
    | cons item rest inductionHypothesis =>
      have further := inductionHypothesis fun other member =>
        right other (List.mem_cons_of_mem _ member)
      rw [parseMembers, areJsonMembers, further, (right item List.mem_cons_self).schema]
      rfl
  properties _ same := by cases same

section

variable {entries : Entries} (right : ∀ keyword, (entries.get keyword).ParsesToJson)

include right

theorem isJson_schemaUnder (keyword : String) :
    ∀ node ∈ schemaUnder keyword entries, node.isJson = true := by
  intro node found
  rw [schemaUnder_eq] at found
  split at found
  · next parts under => exact Option.some.inj found ▸ under ▸ (right keyword).schema
  · cases found

theorem isJson_membersUnder (keyword : String) :
    ∀ members ∈ membersUnder keyword entries, areJsonMembers members = true := by
  intro members found
  rw [membersUnder_eq] at found
  split at found
  · next items under => exact Option.some.inj found ▸ (right keyword).members items under
  · cases found

theorem isJson_propertiesUnder (keyword : String) :
    ∀ properties ∈ propertiesUnder keyword entries, areJsonProperties properties = true := by
  intro properties found
  rw [propertiesUnder_eq] at found
  split at found
  · next parts under => exact Option.some.inj found ▸ (right keyword).properties parts under
  · cases found

theorem isJson_additionalUnder (keyword : String) :
    (additionalUnder keyword entries).isJson = true := by
  rw [additionalUnder_eq]
  split
  · rfl
  · next parts under => exact under ▸ (right keyword).schema
  · rfl

end

theorem Value.parsesToJson_map {entries : Entries} (json : areAllJson entries = true)
    (right : ∀ entry ∈ entries, entry.2.ParsesToJson) : (Value.map entries).ParsesToJson where
  schema := by
    have under (keyword : String) : (Entries.get keyword entries).ParsesToJson :=
      Entries.get_cases (parsesToJson_scalar .null) right
    have notes := isJson_ofEntries json
    have listed : ∀ values ∈ filledItems? (Entries.get "enum" entries), areJson values = true :=
      fun _ => areJson_of_filledItems? (Entries.isJson_get json "enum")
    unfold parseSchema
    split
    · exact notes
    · split
      · next members any =>
        simp [SchemaNode.isJson, notes, isJson_membersUnder under "anyOf" members any]
      · next members _ one =>
        simp [SchemaNode.isJson, notes, isJson_membersUnder under "oneOf" members one]
      · next members _ _ all =>
        simp [SchemaNode.isJson, notes, isJson_membersUnder under "allOf" members all]
      · split
        · exact SchemaNode.isJson_typeList notes (isJson_schemaUnder under "items") listed _
        · next value found _ =>
          simp [SchemaNode.isJson, notes, Entries.isJson_of_get? json found]
        · exact isJson_baseShape notes listed (isJson_propertiesUnder under "properties")
            (isJson_schemaUnder under "items") (isJson_additionalUnder under "additionalProperties")
  members _ same := by cases same
  properties others same := by
    obtain rfl := Value.map.inj same
    refine (areJsonProperties_iff _).2 fun property member => ?_
    have parsed := Placement.mem_of_mem_ofList member
    rw [parseProperties_eq_map, List.mem_map] at parsed
    obtain ⟨_, renamed, rfl⟩ := parsed
    obtain ⟨entry, source, rfl⟩ := List.mem_map.1 renamed
    exact (right entry source).schema

/-- A schema that is read from a JSON value is over JSON values. -/
theorem isJson_parseSchema {raw : Value} (json : raw.isJson = true) :
    (parseSchema raw).isJson = true :=
  (Value.inductionOnJson json Value.parsesToJson_scalar (fun _ => Value.parsesToJson_list)
    fun _ => Value.parsesToJson_map : raw.ParsesToJson).schema

/-! ### References -/

namespace Pointer

theorem mem_of_itemAt? {items : List Value} {position : Int} {item : Value}
    (found : itemAt? items position = some item) : item ∈ items := by
  simp only [itemAt?] at found
  generalize (if position < 0 then position + ↑items.length else position) = place at found
  split at found
  · cases found
  · exact List.mem_of_getElem? found

variable {root : Value} (json : root.isJson = true)

theorem ends_enter (pointer : String) {current : Value} (here : current.isJson = true)
    (segment : String) :
    Ends (·.isJson = true) (fun _ => True) (enter pointer current segment) := by
  unfold enter
  rw [Value.opened_of_isJson here]
  split
  · split
    · next item found => exact Entries.isJson_of_get? here found
    · trivial
  · split
    · next items _ item found =>
      obtain ⟨position, _, found⟩ := Option.bind_eq_some_iff.1 found
      exact (Value.areJson_iff items).1 here item (mem_of_itemAt? found)
    · trivial
  · trivial

include json

theorem ends_resolve (pointer : String) :
    Ends (·.isJson = true) (fun _ => True) (resolve pointer root) := by
  unfold resolve
  split
  · trivial
  · exact Ends.foldlM (fun _ here segment _ => ends_enter pointer here segment) json

/-- Following references in a JSON value leads to JSON values. -/
theorem ends_follow (hops : Nat) (seen : List String) {value : Value}
    (here : value.isJson = true) :
    Ends (·.isJson = true) (fun _ => True) (follow root hops seen value) := by
  induction hops generalizing seen value with
  | zero =>
    unfold follow
    split
    · exact here
    · trivial
  | succ hops inductionHypothesis =>
    unfold follow
    split
    · exact here
    · split
      · trivial
      · exact (ends_resolve json _).bind fun next there => inductionHypothesis _ there

end Pointer

namespace Extraction

/-- A fault that extraction reports as one of the document. -/
def IsMalformed (fault : ExtractionError) : Prop := ∃ cause, fault = .malformed cause

/-- Maps of JSON values. -/
def AreJsonMaps (maps : List Entries) : Prop := ∀ fields ∈ maps, Value.areAllJson fields = true

theorem areJsonMaps_filterMap_entries? {items : List Value}
    (json : ∀ item ∈ items, item.isJson = true) : AreJsonMaps (items.filterMap Value.entries?) := by
  intro fields member
  obtain ⟨item, among, found⟩ := List.mem_filterMap.1 member
  exact Value.areAllJson_of_entries? (json item among) found

section

variable {root : Value} (json : root.isJson = true)

include json

theorem ends_dereferenced {value : Value} (here : value.isJson = true) :
    Ends (·.isJson = true) IsMalformed (dereferenced root value) := by
  unfold dereferenced ofDocument Pointer.dereference
  have ends := Pointer.ends_follow json Pointer.longestChain [] here
  cases followed : Pointer.follow root Pointer.longestChain [] value with
  | ok found => exact ends.of_ok followed
  | error cause => exact ⟨cause, rfl⟩

theorem ends_dereferencedMaps {value : Value} (here : value.isJson = true) :
    Ends AreJsonMaps IsMalformed (dereferencedMaps root value) := by
  have items := (Value.areJson_iff _).1 (Value.areJson_itemsOrEmpty here)
  exact (Ends.mapM fun item member => ends_dereferenced json (items item member)).bind
    fun _ right => areJsonMaps_filterMap_entries? right

end

/-! ### Schemas, parameters, bodies and responses -/

/-- Schemas over JSON values, where there is one. -/
def HasJsonSchema (schema : Option SchemaNode) : Prop := ∀ node ∈ schema, node.isJson = true

/-- No fault. -/
def Never (_ : ExtractionError) : Prop := False

theorem schemaOf_of_isJson {value : Value} (json : value.isJson = true) :
    schemaOf value = .ok (parseSchema value) := by
  rw [schemaOf, readSchema?_of_isUntied (Value.isUntied_of_isJson json)]

theorem ends_schemaOf {value : Value} (json : value.isJson = true) :
    Ends (·.isJson = true) Never (schemaOf value) := by
  rw [schemaOf_of_isJson json]
  exact isJson_parseSchema json

theorem ends_schemaOf? {value : Value} (json : value.isJson = true) :
    Ends HasJsonSchema Never (schemaOf? value) := by
  unfold schemaOf?
  split
  · rw [schemaOf_of_isJson json]
    rintro node ⟨⟩
    exact isJson_parseSchema json
  · exact nofun

theorem isJson_inlineSchema {fields : Entries} (json : Value.areAllJson fields = true) :
    (inlineSchema fields).isJson = true := by
  unfold inlineSchema
  split
  · rw [Value.isJson, Value.areAllJson_iff]
    intro entry member
    obtain ⟨keyword, _, found⟩ := List.mem_filterMap.1 member
    obtain ⟨item, present, rfl⟩ := Option.map_eq_some_iff.1 found
    exact ⟨rfl, Entries.isJson_of_get? json present⟩
  · rfl

theorem isJson_parameterSchema {fields : Entries} (json : Value.areAllJson fields = true)
    (location : String) : (parameterSchema fields location).isJson = true := by
  unfold parameterSchema
  dsimp only
  split
  · exact Entries.isJson_get json "schema"
  · exact isJson_inlineSchema json

theorem ends_parameter {fields : Entries} (json : Value.areAllJson fields = true) :
    Ends (·.schema.isJson = true) Never (parameter fields) :=
  (ends_schemaOf (isJson_parameterSchema json _)).bind fun _ right => right

theorem ends_firstSchema {content : Entries} (json : Value.areAllJson content = true) :
    Ends HasJsonSchema Never (firstSchema content) := by
  cases content with
  | nil => exact nofun
  | cons first rest =>
    have media := ((Value.areAllJson_iff _).1 json first List.mem_cons_self).2
    exact ends_schemaOf? (Entries.isJson_get (Value.areAllJson_entriesOrEmpty media) "schema")

theorem ends_requestBody {root value : Value} (json : root.isJson = true)
    (here : value.isJson = true) :
    Ends (fun body => HasJsonSchema (body.bind (·.schema))) IsMalformed
      (requestBody root value) := by
  refine (ends_dereferenced json here).bind fun body right => ?_
  split
  · next fields found =>
    have fieldsJson := Value.areAllJson_of_entries? right found
    have content := Value.areAllJson_entriesOrEmpty (Entries.isJson_get fieldsJson "content")
    exact ((ends_firstSchema content).mono (fun _ => id) fun _ => False.elim).bind
      fun _ schema => schema
  · exact nofun

theorem ends_response (status : String) {fields : Entries}
    (json : Value.areAllJson fields = true) :
    Ends (fun response => HasJsonSchema response.schema) Never (response status fields) := by
  have content := Value.areAllJson_entriesOrEmpty (Entries.isJson_get json "content")
  exact (ends_firstSchema content).bind fun _ schema => schema

theorem ends_swaggerResponse (produces : List String) (status : String) {fields : Entries}
    (json : Value.areAllJson fields = true) :
    Ends (fun response => HasJsonSchema response.schema) Never
      (swaggerResponse produces status fields) :=
  (ends_schemaOf? (Entries.isJson_get json "schema")).bind fun _ schema => schema

theorem ends_responses {read : String → Entries → Except ExtractionError Response}
    (each : ∀ status fields, Value.areAllJson fields = true →
      Ends (fun response => HasJsonSchema response.schema) Never (read status fields))
    {root value : Value} (json : root.isJson = true) (here : value.isJson = true) :
    Ends (fun found => ∀ entry ∈ found, HasJsonSchema entry.2.schema) IsMalformed
      (responses read root value) := by
  have items := (Value.areAllJson_iff _).1 (Value.areAllJson_entriesOrEmpty here)
  refine Ends.bind (Ends.mapM fun entry member => ?each)
    fun found (right : ∀ other ∈ found, ∀ entry ∈ other, HasJsonSchema entry.2.schema)
      entry member => ?_
  case each =>
    refine (ends_dereferenced json (items entry member).2).bind fun response there => ?_
    split
    · next fields present =>
      refine ((each _ _ (Value.areAllJson_of_entries? there present)).mono (fun _ => id)
        fun _ => False.elim).bind fun response schema => ?_
      rintro entry ⟨⟩
      exact schema
    · exact nofun
  obtain ⟨other, among, same⟩ := List.mem_filterMap.1 (Placement.mem_of_mem_ofList member)
  exact right other among entry same

theorem ends_responseReader (swagger : Bool) (defaults : MediaDefaults) (fields : Entries)
    (status : String) {response : Entries} (json : Value.areAllJson response = true) :
    Ends (fun response => HasJsonSchema response.schema) Never
      (responseReader swagger defaults fields status response) := by
  unfold responseReader
  split
  · exact ends_swaggerResponse _ _ json
  · exact ends_response _ json

/-- The named schemas of a JSON document are read without a fault. -/
theorem ends_schemas {entries : Entries} (json : Value.areAllJson entries = true)
    (swagger : Bool) :
    Ends (areJsonProperties · = true) Never (schemas entries swagger) := by
  have declared : Value.areAllJson (namedSchemas entries swagger) = true := by
    unfold namedSchemas
    split
    · exact Value.areAllJson_entriesOrEmpty (Entries.isJson_get json "definitions")
    · have components := Value.areAllJson_entriesOrEmpty (Entries.isJson_get json "components")
      exact Value.areAllJson_entriesOrEmpty (Entries.isJson_get components "schemas")
  have items := (Value.areAllJson_iff _).1 declared
  have each (entry : Scalar × Value) (member : entry ∈ namedSchemas entries swagger) :
      Ends (fun named : String × SchemaNode => named.2.isJson = true) Never (do
        pure (entry.1.text, ← schemaOf entry.2)) :=
    (ends_schemaOf (items entry member).2).bind fun _ right => right
  have whole : schemas entries swagger = (do
      let named ← (namedSchemas entries swagger).mapM fun entry => do
        pure (entry.1.text, ← schemaOf entry.2)
      pure (Ordered.ofList named)) := by
    cases swagger <;> rfl
  rw [whole]
  exact (Ends.mapM each).bind fun named right => (areJsonProperties_iff _).2 fun entry member =>
    right entry (Placement.mem_of_mem_ofList member)

/-! ### Operations -/

/-- A fault of an operation: one of the document, or parameters that cannot be told apart. -/
def IsReported (fault : ExtractionError) : Prop :=
  IsMalformed fault ∨ ∃ kind, fault = .incomparable kind

theorem ends_mergedParameters {ofPath ofOperation : List Entries} (path : AreJsonMaps ofPath)
    (own : AreJsonMaps ofOperation) :
    Ends AreJsonMaps IsReported (mergedParameters ofPath ofOperation) := by
  have key (parameter : Entries) : Ends (fun _ => True) IsReported (parameterKey parameter) := by
    unfold parameterKey
    dsimp only
    split
    · exact Or.inr ⟨_, rfl⟩
    · exact Or.inr ⟨_, rfl⟩
    · trivial
  have keyed (parameter : Entries) (member : parameter ∈ ofPath) :
      Ends (fun entry : (Value × Value) × Entries => Value.areAllJson entry.2 = true) IsReported
        (do
          let key ← parameterKey parameter
          pure (key, parameter)) :=
    (key parameter).bind fun _ _ => path parameter member
  refine (Ends.mapM fun parameter _ => key parameter).bind fun overriding _ => ?_
  refine (Ends.mapM keyed).bind fun keyed right => ?_
  intro fields member
  rcases List.mem_append.1 member with kept | member
  · obtain ⟨entry, among, rfl⟩ := List.mem_map.1 kept
    exact right entry (List.mem_of_mem_filter among)
  · exact own fields member

section

variable {root : Value} (json : root.isJson = true) (swagger : Bool) (defaults : MediaDefaults)

include json

theorem ends_parametersAndBody {ofPath : List Entries} (path : AreJsonMaps ofPath)
    {fields : Entries} (here : Value.areAllJson fields = true) :
    Ends (fun parts => (∀ parameter ∈ parts.1, parameter.schema.isJson = true) ∧
        HasJsonSchema (parts.2.bind (·.schema))) IsReported
      (parametersAndBody root swagger defaults ofPath fields) := by
  have own := ends_dereferencedMaps json (Entries.isJson_get here "parameters")
  refine (own.mono (fun _ => id) fun _ => Or.inl).bind fun ofOperation right => ?_
  refine (ends_mergedParameters path right).bind fun merged all => ?_
  refine (Ends.mapM fun fields member =>
    (ends_parameter (all fields member)).mono (fun _ => id) fun _ => False.elim).bind
      fun parameters schemas => ?_
  split
  · refine ⟨fun parameter member => schemas parameter (List.mem_of_mem_filter member), ?_⟩
    intro node member
    obtain ⟨body, found, node⟩ := Option.bind_eq_some_iff.1 member
    obtain ⟨parameter, among, rfl⟩ := Option.map_eq_some_iff.1 found
    exact Option.some.inj node ▸ schemas parameter (List.mem_of_find?_eq_some among)
  · have body := ends_requestBody json (Entries.isJson_get here "requestBody")
    exact (body.mono (fun _ => id) fun _ => Or.inl).bind fun _ schema => ⟨schemas, schema⟩

theorem ends_operation (path : String) {ofPath : List Entries} (shared : AreJsonMaps ofPath)
    (verb : Verb) {fields : Entries} (here : Value.areAllJson fields = true) :
    Ends (·.isJson = true) IsReported
      (operation root swagger defaults path ofPath verb fields) := by
  refine (ends_parametersAndBody json swagger defaults shared here).bind
    fun parts ⟨parameters, body⟩ => ?_
  have responses := ends_responses
    (fun status _ json => ends_responseReader swagger defaults fields status json) json
    (Entries.isJson_get here "responses")
  refine (responses.mono (fun _ => id) fun _ => Or.inl).bind fun responses schemas => ?_
  refine (areJsonMembers_iff _).2 fun node member => ?_
  simp only [Operation.schemas, List.mem_append, List.mem_map, Option.mem_toList,
    List.mem_filterMap] at member
  rcases member with (⟨parameter, among, rfl⟩ | node) | ⟨entry, among, node⟩
  · exact parameters parameter among
  · exact body _ node
  · exact schemas entry among _ node

theorem ends_operationsOfPath {entry : Scalar × Value} (here : entry.2.isJson = true) :
    Ends (fun found => ∀ operation ∈ found, operation.isJson = true) IsReported
      (operationsOfPath root swagger defaults entry) := by
  refine ((ends_dereferenced json here).mono (fun _ => id) fun _ => Or.inl).bind
    fun item there => ?_
  split
  · next fields found =>
    have fieldsJson := Value.areAllJson_of_entries? there found
    have shared := ends_dereferencedMaps json (Entries.isJson_get fieldsJson "parameters")
    refine (shared.mono (fun _ => id) fun _ => Or.inl).bind fun ofPath right => ?_
    refine Ends.mapM fun found member => ends_operation json swagger defaults _ right _ ?_
    obtain ⟨verb, _, declared⟩ := List.mem_filterMap.1 member
    obtain ⟨operation, present, rfl⟩ := Option.map_eq_some_iff.1 declared
    exact Value.areAllJson_of_entries? (Entries.isJson_get fieldsJson _) present
  · exact fun _ member => absurd member List.not_mem_nil

end

theorem ends_operations {entries : Entries} (json : Value.areAllJson entries = true)
    (swagger : Bool) :
    Ends (fun found => ∀ operation ∈ found, operation.isJson = true) IsReported
      (operations entries swagger) := by
  have paths := Entries.isJson_get json "paths"
  unfold operations
  dsimp only
  split
  · exact fun _ member => absurd member List.not_mem_nil
  · split
    · next items found =>
      have each := (Value.areAllJson_iff _).1 (Value.areAllJson_of_entries? paths found)
      have whole : (Value.map entries).isJson = true := json
      refine (Ends.mapM fun entry member =>
        ends_operationsOfPath whole swagger _ (each entry member).2).bind fun found right => ?_
      intro operation member
      obtain ⟨ofPath, among, here⟩ := List.mem_flatten.1 member
      exact right ofPath among operation here
    · exact Or.inl ⟨_, rfl⟩

end Extraction

end ClientModel
