/-
This file says which documents become models whose types can be written. Every named schema is
declared, whichever operations are wanted, and every wanted operation becomes a call; each may hold
a value that has no text. The main statement is the exact condition of every failure, and that none
happens to a document that was read of JSON text.
-/

import ClientModel.Document.Decoding
import ClientModel.Proofs.Declarations
import ClientModel.Proofs.Documentability
import ClientModel.Proofs.JsonText
import ClientModel.Proofs.NamespaceTree
import ClientModel.Proofs.Rejection

namespace ClientModel

/-! ### The schemas of an operation that are resolved -/

namespace Operation

/-- The schemas of the parameters that become arguments. -/
def argumentSchemas (operation : Operation) : List SchemaNode :=
  (operation.parameters.filter fun parameter => !Text.isBlankText parameter.name &&
    (ArgumentLocation.ofName? parameter.location).isSome).map (·.schema)

/-- The schema of the body: of the request body, else of the first parameter that is one. -/
def bodySchema (operation : Operation) : Option SchemaNode :=
  match operation.requestBody with
  | some body => body.schema
  | none => (operation.parameters.find? (·.location == "body")).map (·.schema)

/-- The schema of the response that a call returns. -/
def responseSchema (operation : Operation) : Option SchemaNode :=
  (Assembly.successResponse? operation).bind fun response =>
    if response.hasContent then response.schema else none

/-- The schemas that a call resolves, in order. -/
def resolvedSchemas (operation : Operation) : List SchemaNode :=
  operation.argumentSchemas ++ operation.bodySchema.toList ++ operation.responseSchema.toList

/-- The annotations that a call documents. -/
def described (operation : Operation) : List Annotations :=
  operation.resolvedSchemas.flatMap SchemaNode.described

end Operation

namespace Assembly

theorem failure?_resolveOptional (schema : Option SchemaNode) :
    (resolveOptional schema).failure? =
      (schema.toList.flatMap SchemaNode.described).findSome? undocumentable? := by
  cases schema with
  | none => rfl
  | some node => simpa [resolveOptional] using failure?_resolve node

theorem failure?_argumentsOf (operationId : String) (parameters : List Parameter) :
    (argumentsOf operationId parameters).failure? =
      (((parameters.filter fun parameter => !Text.isBlankText parameter.name &&
        (ArgumentLocation.ofName? parameter.location).isSome).map (·.schema)).flatMap
          SchemaNode.described).findSome? undocumentable? := by
  induction parameters with
  | nil => rfl
  | cons parameter rest inductionHypothesis =>
    unfold argumentsOf
    split
    · next blank =>
      rw [failure?_bind fun _ => inductionHypothesis, failure?_leave, Option.none_or,
        List.filter_cons_of_neg (by simp [blank])]
    · next named =>
      split
      · next elsewhere =>
        rw [failure?_bind fun _ => inductionHypothesis, failure?_leaveAll, Option.none_or,
          List.filter_cons_of_neg (by simp [elsewhere])]
      · next location found =>
        rw [List.filter_cons_of_pos (by simp [named, found]), List.map_cons, List.flatMap_cons,
          List.findSome?_append, ← inductionHypothesis, ← failure?_resolve]
        refine (failure?_bind fun identifier => ?_).trans Option.none_or
        refine failure?_bind fun type => ?_
        rw [failure?_bind_pure]

theorem failure?_bodyOf (operation : Operation) :
    (bodyOf operation).failure? =
      (operation.bodySchema.toList.flatMap SchemaNode.described).findSome? undocumentable? := by
  unfold bodyOf Operation.bodySchema
  cases operation.requestBody with
  | some body =>
    exact (failure?_bind_pure _ _).trans (failure?_resolveOptional _)
  | none =>
    dsimp only
    cases operation.parameters.find? (·.location == "body") with
    | some parameter =>
      refine (failure?_bind_pure _ _).trans ?_
      rw [failure?_resolve]
      simp
    | none => rfl

theorem failure?_responseTypeOf (operation : Operation) :
    (responseTypeOf operation).failure? =
      (operation.responseSchema.toList.flatMap SchemaNode.described).findSome?
        undocumentable? := by
  unfold responseTypeOf Operation.responseSchema
  split
  · next absent =>
    rw [absent]
    rfl
  · next response found =>
    rw [found, Option.bind_some]
    split
    · exact failure?_resolveOptional _
    · rfl

/-- A call fails with the first annotations of its operation that cannot be shown. -/
theorem failure?_callOf (operation : Operation) :
    (callOf operation).failure? = operation.described.findSome? undocumentable? := by
  rw [Operation.described, Operation.resolvedSchemas, List.flatMap_append, List.flatMap_append,
    List.append_assoc, List.findSome?_append, List.findSome?_append, ← failure?_bodyOf,
    ← failure?_responseTypeOf, Operation.argumentSchemas,
    ← failure?_argumentsOf operation.effectiveId]
  unfold callOf
  refine (failure?_bind fun path => ?_).trans Option.none_or
  refine failure?_bind fun arguments => failure?_bind fun body => ?_
  rw [failure?_bind_pure]

theorem failure?_placeCalls (root : Namespace) (operations : List Operation) :
    (placeCalls root operations).failure? =
      (operations.flatMap Operation.described).findSome? undocumentable? := by
  induction operations generalizing root with
  | nil => rfl
  | cons operation rest inductionHypothesis =>
    rw [List.flatMap_cons, List.findSome?_append, ← failure?_callOf]
    unfold placeCalls
    refine failure?_bind fun call => ?_
    rw [failure?_bind fun _ => inductionHypothesis _, failure?_leaveAll, Option.none_or]

/-! ### Declarations and models -/

theorem failure?_askTargets (pointers : List String) : (askTargets pointers).failure? = none := by
  induction pointers with
  | nil => rfl
  | cons pointer rest inductionHypothesis =>
    refine (failure?_bind fun name => ?_).trans Option.none_or
    rw [failure?_bind_pure, inductionHypothesis]

/-- A declaration fails with the first annotations of its schema that cannot be shown: those it
documents, then its own. -/
theorem failure?_declarationOf (name : String) (node : SchemaNode) :
    (declarationOf name node).failure? =
      (node.described ++ [node.notes]).findSome? undocumentable? := by
  rw [List.findSome?_append, List.findSome?_singleton, ← failure?_resolve,
    ← failure?_describe node.notes none]
  unfold declarationOf
  refine (failure?_bind fun identifier => ?_).trans Option.none_or
  refine failure?_bind fun type => ?_
  have supertypes (description : Option Description) (identifier : String) (type : TypeExpr) : (do
      let supertypes ← askTargets (supertypePointers node)
      pure ⟨name, identifier, type, description, supertypes⟩ : Assembly Declaration).failure? =
        none := by
    rw [failure?_bind_pure, failure?_askTargets]
  rw [failure?_bind fun description => supertypes description _ _, Option.or_none]

theorem failure?_placeDeclarations (earlier : List Declaration)
    (schemas : List (String × SchemaNode)) :
    (placeDeclarations earlier schemas).failure? =
      (schemas.flatMap fun entry => entry.2.described ++ [entry.2.notes]).findSome?
        undocumentable? := by
  induction schemas generalizing earlier with
  | nil => rfl
  | cons entry rest inductionHypothesis =>
    obtain ⟨name, node⟩ := entry
    rw [List.flatMap_cons, List.findSome?_append, ← failure?_declarationOf name]
    unfold placeDeclarations
    refine failure?_bind fun declaration => ?_
    rw [failure?_bind fun _ => inductionHypothesis _, failure?_leaveAll, Option.none_or]

end Assembly

/-- The annotations that the model of a document documents: for all its named schemas, then for the
wanted operations. -/
def Document.described (document : Document) (operationIds : Option (List String)) :
    List Annotations :=
  document.schemas.flatMap (fun entry => entry.2.described ++ [entry.2.notes]) ++
    (document.operations.filter (Assembly.isWanted operationIds)).flatMap Operation.described

namespace Assembly

/-- The model of a document fails with the first annotations that cannot be shown. -/
theorem failure?_modelOf (document : Document) (operationIds : Option (List String)) :
    (modelOf document operationIds).failure? =
      (document.described operationIds).findSome? undocumentable? := by
  rw [Document.described, List.findSome?_append, ← failure?_placeDeclarations [],
    ← failure?_placeCalls (Namespace.empty "")]
  unfold modelOf
  refine failure?_bind fun all => ?_
  have rest (root : Namespace) : (do
      let kept := keptDeclarations all root operationIds
      leaveAll ((undeclaredNames kept root).map .undeclared)
      leave (.assembled kept.length root.walk.length)
      pure ⟨document.info, kept, root⟩ : Assembly Model).failure? = none := by
    dsimp only
    rw [failure?_bind fun _ => failure?_bind fun _ => failure?_pure _, failure?_leaveAll,
      failure?_leave]
    rfl
  exact (failure?_bind rest).trans Option.or_none

/-! ### Texts of types -/

theorem render?_eq_error_iff (type : TypeExpr) (cause : Json.Unwritable) :
    type.render? = .error cause ↔ type.unrenderable? = some cause := by
  unfold TypeExpr.render?
  cases type.unrenderable? <;> simp

theorem exists_render? {type : TypeExpr} (writable : type.unrenderable? = none) :
    ∃ text, type.render? = .ok text := by
  unfold TypeExpr.render?
  rw [writable]
  exact ⟨_, rfl⟩

/-- The text of what a call returns fails with the first literal of its schema that has none. -/
theorem unrenderable?_responseType {operation : Operation} {call : Call}
    (made : (callOf operation).result = .ok call) :
    call.responseType.unrenderable? =
      (operation.responseSchema.toList.flatMap SchemaNode.literals).findSome?
        Json.unwritable? := by
  have resolved : (responseTypeOf operation).result = .ok call.responseType := by
    obtain ⟨_, _, responseType, _, _, resolved, rfl⟩ := (result_callOf_eq_ok_iff _ _).1 made
    exact resolved
  generalize call.responseType = type at resolved
  unfold responseTypeOf at resolved
  unfold Operation.responseSchema
  cases found : successResponse? operation with
  | none =>
    rw [found] at resolved
    cases resolved
    rfl
  | some response =>
    rw [found] at resolved
    rw [Option.bind_some]
    dsimp only at resolved
    split at resolved
    · next content =>
      rw [if_pos content]
      cases schema : response.schema with
      | none =>
        rw [schema] at resolved
        cases resolved
        rfl
      | some node =>
        rw [schema] at resolved
        rw [unrenderable?_of_resolve resolved]
        simp
    · next empty =>
      rw [if_neg empty]
      cases resolved
      rfl

theorem mem_declarations_of_mem_keptDeclarations {all : List Declaration} {root : Namespace}
    {operationIds : Option (List String)} {declaration : Declaration}
    (member : declaration ∈ keptDeclarations all root operationIds) : declaration ∈ all := by
  unfold keptDeclarations at member
  split at member
  · exact List.mem_of_mem_filter member
  · exact member

theorem mem_schemas_of_mem_responseSchema {operation : Operation} {node : SchemaNode}
    (found : node ∈ operation.responseSchema) : node ∈ operation.schemas := by
  obtain ⟨response, success, here⟩ := Option.bind_eq_some_iff.1 found
  obtain ⟨status, _, present⟩ := List.exists_of_findSome?_eq_some success
  have schema : response.schema = some node := by
    split at here
    · exact here
    · cases here
  simp only [Operation.schemas, List.mem_append, List.mem_filterMap]
  exact Or.inr ⟨_, Ordered.mem_of_get? present, schema⟩

end Assembly

/-- Every type that a model shows, of a declaration or of what a call returns, has a text. -/
structure Model.HasTexts (model : Model) : Prop where
  declarations : ∀ declaration ∈ model.declarations, ∃ text, declaration.type.render? = .ok text
  calls : ∀ call ∈ model.root.walk, ∃ text, call.responseType.render? = .ok text

namespace Assembly

/-- The calls of a model are made of wanted operations. -/
theorem exists_operation_of_mem_walk {document : Document} {operationIds : Option (List String)}
    {root : Namespace} (built : (namespaceRoot document operationIds).result = .ok root)
    {call : Call} (member : call ∈ root.walk) :
    ∃ operation ∈ document.operations, isWanted operationIds operation = true ∧
      (callOf operation).result = .ok call := by
  obtain ⟨calls, made, rfl⟩ := (result_placeCalls_iff _ _ _).1 built
  obtain ⟨operation, last, here⟩ := ((Namespace.isTreeOf_tree made).made call).1 member
  obtain ⟨among, wanted⟩ := List.mem_filter.1 last.mem
  exact ⟨operation, among, wanted, here⟩

/-- A document over JSON values becomes a model, and every type in it has a text. -/
theorem exists_model_of_isJson {document : Document} (json : document.isJson = true)
    (operationIds : Option (List String)) :
    ∃ model, (modelOf document operationIds).result = .ok model ∧ model.HasTexts := by
  obtain ⟨all, declared⟩ := succeeds_declarations json
  obtain ⟨root, placed⟩ := succeeds_namespaceRoot json operationIds
  simp only [Document.isJson, Bool.and_eq_true, List.all_eq_true] at json
  refine ⟨_, (result_modelOf_iff _ _ _).2 ⟨all, root, declared, placed, rfl⟩, ?_, ?_⟩
  · intro declaration member
    obtain ⟨entry, among, made⟩ := exists_schema_of_mem declared
      (mem_declarations_of_mem_keptDeclarations member)
    refine exists_render? ((unrenderable?_of_resolve made.type).trans ?_)
    exact findSome?_unwritable?_of_areJson
      (areJson_literals ((areJsonProperties_iff _).1 json.1 entry among))
  · intro call member
    obtain ⟨operation, among, _, made⟩ := exists_operation_of_mem_walk placed member
    refine exists_render? ((unrenderable?_responseType made).trans ?_)
    refine findSome?_unwritable?_of_areJson ((Value.areJson_iff _).2 fun literal here => ?_)
    obtain ⟨node, found, here⟩ := List.mem_flatMap.1 here
    have right := operation.isJson_of_mem (json.2 operation among)
      (mem_schemas_of_mem_responseSchema (Option.mem_toList.1 found))
    exact (Value.areJson_iff _).1 (areJson_literals right) literal here

/-- The model of a document fails exactly with the first annotations, among those it documents for
all named schemas and then for the wanted operations, that cannot be shown. In a model, the text of
a declaration's type fails exactly with the first literal of its schema that has no text, and so
does the text of what a call returns. Neither happens to a document that was read of JSON text. -/
theorem modelOf_failures (document : Document) (operationIds : Option (List String)) :
    (∀ cause, (modelOf document operationIds).result = .error cause ↔
      (document.described operationIds).findSome? undocumentable? = some cause) ∧
    (∀ model, (modelOf document operationIds).result = .ok model →
      (∀ declaration ∈ model.declarations, ∃ entry ∈ document.schemas,
        IsDeclarationOf entry.1 entry.2 declaration ∧
          ∀ cause, declaration.type.render? = .error cause ↔
            entry.2.literals.findSome? Json.unwritable? = some cause) ∧
      ∀ call ∈ model.root.walk, ∃ operation ∈ document.operations,
        isWanted operationIds operation = true ∧ (callOf operation).result = .ok call ∧
          ∀ cause, call.responseType.render? = .error cause ↔
            (operation.responseSchema.toList.flatMap SchemaNode.literals).findSome?
              Json.unwritable? = some cause) ∧
    ((∃ text entries version, Json.read text = .ok (.map entries) ∧
        Extraction.document entries version = .ok document) →
      ∃ model, (modelOf document operationIds).result = .ok model ∧ model.HasTexts) := by
  refine ⟨fun cause => ?_, fun model built => ?_, ?_⟩
  · rw [← failure?_eq_some_iff, failure?_modelOf]
  · obtain ⟨all, root, declared, placed, rfl⟩ := (result_modelOf_iff _ _ _).1 built
    constructor
    · intro declaration member
      obtain ⟨entry, among, made⟩ := exists_schema_of_mem declared
        (mem_declarations_of_mem_keptDeclarations member)
      refine ⟨entry, among, made, fun cause => ?_⟩
      rw [render?_eq_error_iff, unrenderable?_of_resolve made.type]
    · intro call member
      obtain ⟨operation, among, wanted, made⟩ := exists_operation_of_mem_walk placed member
      refine ⟨operation, among, wanted, made, fun cause => ?_⟩
      rw [render?_eq_error_iff, unrenderable?_responseType made]
  · rintro ⟨text, entries, version, decoded, understood⟩
    exact exists_model_of_isJson
      ((Extraction.ends_document (Json.isJson_of_read decoded) version).of_ok understood)
      operationIds

/-- A document in JSON text whose one schema has a default. -/
def weekdayText : String :=
  "\x7b\"swagger\": \"2.0\", \"definitions\": \x7b\"Day\": \x7b\"default\": \"monday\"\x7d\x7d\x7d"

theorem modelOf_failures_weekdayText :
    ∃ entries document model, Json.read weekdayText = .ok (.map entries) ∧
      Extraction.document entries "2.0" = .ok document ∧
      (modelOf document none).result = .ok model ∧ model.HasTexts := by
  obtain ⟨entries, document, decoded, understood⟩ : ∃ entries document,
      Json.read weekdayText = .ok (.map entries) ∧
        Extraction.document entries "2.0" = .ok document := ⟨_, _, rfl, rfl⟩
  obtain ⟨model, built, texts⟩ := (modelOf_failures document none).2.2
    ⟨_, entries, "2.0", decoded, understood⟩
  exact ⟨entries, document, model, decoded, understood, built, texts⟩

/-- Why a text that is decoded and understood becomes no model. -/
def failureOfText? (text : String) : Option Json.Unwritable :=
  match Decoding.decode .unknown text with
  | .ok (.map entries) =>
    match Extraction.documentOf entries with
    | .ok document => (modelOf document none).failure?
    | .error _ => none
  | _ => none

theorem exists_of_failureOfText? {text : String} {cause : Json.Unwritable}
    (fails : failureOfText? text = some cause) :
    ∃ entries document, Decoding.decode .unknown text = .ok (.map entries) ∧
      Extraction.documentOf entries = .ok document ∧
      (modelOf document none).result = .error cause := by
  unfold failureOfText? at fails
  split at fails
  · next entries decoded =>
    split at fails
    · next document understood =>
      exact ⟨entries, document, decoded, understood, (failure?_eq_some_iff _ _).1 fails⟩
    · cases fails
  · cases fails

/-- A document in YAML text whose one schema has a date for a default. -/
def datedText : String := "swagger: '2.0'\ndefinitions:\n  Day:\n    default: 2020-01-01\n"

/-- It is decoded and understood, but has no model: a date has no JSON text. -/
theorem modelOf_datedText :
    ∃ entries document, Decoding.decode .unknown datedText = .ok (.map entries) ∧
      Extraction.documentOf entries = .ok document ∧
      (modelOf document none).result = .error (.item "date") :=
  exists_of_failureOfText? (by decide +kernel)

end Assembly

end ClientModel
