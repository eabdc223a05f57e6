/-
This file renders an operation of the older generation of documents in the newer one. What the
older one writes as a parameter in the body, as the types that an operation consumes and as the
schema of a response, the newer one writes as maps from types of content to schemas. The main
statement is that the rendition becomes the same call, however many bodies and whatever responses
the operation declares.
-/

import ClientModel.Proofs.Numerals
import ClientModel.Proofs.Operations
import ClientModel.Proofs.Overriding
import ClientModel.Proofs.Relocation

namespace ClientModel

/-! ### Operations that become the same call -/

/-- A parameter that gives the same argument. -/
structure Parameter.IsLike (first second : Parameter) : Prop where
  name : first.name = second.name
  location : first.location = second.location
  required : first.required = second.required
  description : first.description = second.description
  type : (resolve first.schema).result = (resolve second.schema).result

/-- A request body that gives the same argument. Only the first type of content counts. -/
structure RequestBody.IsLike (first second : RequestBody) : Prop where
  required : first.required = second.required
  contentType : first.contentTypes.head? = second.contentTypes.head?
  type : (resolveOptional first.schema).result = (resolveOptional second.schema).result

/-- A response that gives the same type and the same documentation. -/
structure Response.IsLike (first second : Response) : Prop where
  description : first.description = second.description
  hasContent : first.hasContent = second.hasContent
  type : (resolveOptional first.schema).result = (resolveOptional second.schema).result

/-- Responses for the same statuses that give the same types and the same documentation. -/
def AreLikeResponses (first second : List (String × Response)) : Prop :=
  List.Forall₂ (fun entry entry' => entry.1 = entry'.1 ∧ entry.2.IsLike entry'.2) first second

namespace Assembly

theorem result_argumentsOf_of_isLike (operationId : String) {first second : List Parameter}
    (like : List.Forall₂ Parameter.IsLike first second) :
    (argumentsOf operationId first).result = (argumentsOf operationId second).result := by
  induction like with
  | nil => rfl
  | @cons parameter parameter' rest rest' here _ inductionHypothesis =>
    unfold argumentsOf
    rw [here.name, here.location]
    split
    · simp only [result_bind, result_leave, inductionHypothesis]
    · split
      · simp only [result_bind, result_leaveAll, inductionHypothesis]
      · simp only [result_bind, result_askProperty, here.type, inductionHypothesis, argumentOf,
          here.name, here.required, here.description]

theorem result_bodyOf_of_isLike {first second : RequestBody} (like : first.IsLike second)
    {operation operation' : Operation} (body : operation.requestBody = some first)
    (body' : operation'.requestBody = some second) :
    (bodyOf operation).result = (bodyOf operation').result := by
  unfold bodyOf
  rw [body, body']
  simp only [result_bind, like.type, like.required, like.contentType]

/-- Without a body there is no argument for one. -/
theorem bodyOf_eq_none {operation : Operation} (none : operation.requestBody = none)
    (apart : ∀ parameter ∈ operation.parameters, parameter.location ≠ "body") :
    bodyOf operation = pure Option.none := by
  have missing : operation.parameters.find? (·.location == "body") = Option.none :=
    List.find?_eq_none.2 fun parameter member => by simpa using apart parameter member
  unfold bodyOf
  rw [none, missing]

theorem isLike_get? {first second : List (String × Response)}
    (like : AreLikeResponses first second) (status : String) :
    Option.Rel Response.IsLike (Ordered.get? status first) (Ordered.get? status second) := by
  induction like with
  | nil => exact .none
  | @cons entry entry' rest rest' here _ inductionHypothesis =>
    rw [Ordered.get?, Ordered.get?, ← here.1]
    split
    · exact .some here.2
    · exact inductionHypothesis

theorem isLike_successResponse? {operation operation' : Operation}
    (like : AreLikeResponses operation.responses operation'.responses) :
    Option.Rel Response.IsLike (successResponse? operation) (successResponse? operation') := by
  unfold successResponse?
  induction successStatuses with
  | nil => exact .none
  | cons status rest inductionHypothesis =>
    have here := isLike_get? like status
    rw [List.findSome?_cons, List.findSome?_cons]
    cases first : Ordered.get? status operation.responses <;>
      cases second : Ordered.get? status operation'.responses <;> rw [first, second] at here
    · exact inductionHypothesis
    · cases here
    · cases here
    · exact here

section

variable {operation operation' : Operation}
  (like : AreLikeResponses operation.responses operation'.responses)

include like

theorem result_responseTypeOf_of_areLike :
    (responseTypeOf operation).result = (responseTypeOf operation').result := by
  have found := isLike_successResponse? like
  unfold responseTypeOf
  generalize successResponse? operation = first at found ⊢
  generalize successResponse? operation' = second at found ⊢
  cases found with
  | none => rfl
  | some here =>
    dsimp only
    rw [here.hasContent]
    split
    · exact here.type
    · rfl

theorem describeOperation_of_areLike (operationId : operation.operationId = operation'.operationId)
    (summary : operation.summary = operation'.summary)
    (description : operation.description = operation'.description) :
    describeOperation operation = describeOperation operation' := by
  have found := isLike_successResponse? like
  unfold describeOperation summaryLines
  rw [operationId, summary, description]
  generalize successResponse? operation = first at found ⊢
  generalize successResponse? operation' = second at found ⊢
  cases found with
  | none => rfl
  | some here => rw [Option.bind_some, Option.bind_some, here.description]

end

/-- An operation that says the same of itself as another, whose parts may differ. -/
structure SaysTheSame (first second : Operation) : Prop where
  path : first.path = second.path
  verb : first.verb = second.verb
  operationId : first.operationId = second.operationId
  summary : first.summary = second.summary
  description : first.description = second.description
  tags : first.tags = second.tags
  deprecated : first.deprecated = second.deprecated

/-- Operations that say the same of themselves and have like parts become the same call. -/
theorem result_callOf_of_isLike {operation operation' : Operation}
    (same : SaysTheSame operation operation')
    (parameters : List.Forall₂ Parameter.IsLike operation.parameters operation'.parameters)
    (body : (bodyOf operation).result = (bodyOf operation').result)
    (responses : AreLikeResponses operation.responses operation'.responses) :
    (callOf operation).result = (callOf operation').result := by
  have operationId : operation.effectiveId = operation'.effectiveId := by
    unfold Operation.effectiveId
    rw [same.operationId, same.verb, same.path]
  have together : called operation = called operation' := by
    funext arguments body responseType
    unfold called
    rw [operationId, same.path, same.verb, same.tags, same.deprecated,
      describeOperation_of_areLike responses same.operationId same.summary same.description]
  rw [result_callOf, result_callOf, operationId, result_argumentsOf_of_isLike _ parameters, body,
    result_responseTypeOf_of_areLike responses, together]

end Assembly

namespace Extraction

open Relocation

/-! ### Readers over JSON values -/

/-- The schema that a map writes; nothing else writes one. -/
def schemaIn? (value : Value) : Option SchemaNode :=
  if value.entries?.isSome then some (parseSchema value) else none

theorem schemaOf?_of_isJson {value : Value} (json : value.isJson = true) :
    schemaOf? value = .ok (schemaIn? value) := by
  unfold schemaOf? schemaIn?
  split
  · rw [schemaOf_of_isJson json]
    rfl
  · rfl

/-- What is no map has an unknown type, whether it counts as a schema or not. -/
theorem result_resolveOptional_of_isJson {raw : Value} (json : raw.isJson = true) :
    (resolveOptional (schemaIn? raw)).result = .ok raw.schemaType := by
  cases raw with
  | map entries => exact result_resolve_of_isJson json
  | scalar _ | list _ => rfl
  | set _ | pair _ _ | knot _ _ | again _ _ => cases json

/-- What is read of a parameter. -/
def parameterOf (fields : Entries) : Parameter where
  name := (placeOf fields).1
  location := (placeOf fields).2
  required := (fields.get "required").isTrue
  description := (fields.get "description").string?
  schema := parseSchema (parameterSchema fields (placeOf fields).2)

theorem parameter_of_isJson {fields : Entries} (json : Value.areAllJson fields = true) :
    parameter fields = .ok (parameterOf fields) := by
  unfold parameter
  dsimp only
  rw [schemaOf_of_isJson (isJson_parameterSchema json _)]
  rfl

theorem mapM_parameter_of_isJson {maps : List Entries} (json : AreJsonMaps maps) :
    maps.mapM parameter = .ok (maps.map parameterOf) := by
  refine (mapM_eq_ok_iff _ _ _).2 (List.forall₂_map_right_iff.2 (List.forall₂_same.2 ?_))
  exact fun fields member => parameter_of_isJson (json fields member)

/-- What is read of a response of the older generation. -/
def swaggerResponseOf (produces : List String) (status : String) (fields : Entries) : Response where
  statusCode := status
  description := (fields.get "description").string?
  contentTypes := if (schemaIn? (fields.get "schema")).isSome then produces else []
  hasContent := (schemaIn? (fields.get "schema")).isSome
  schema := schemaIn? (fields.get "schema")

theorem swaggerResponse_of_isJson (produces : List String) (status : String) {fields : Entries}
    (json : Value.areAllJson fields = true) :
    swaggerResponse produces status fields = .ok (swaggerResponseOf produces status fields) := by
  unfold swaggerResponse
  rw [schemaOf?_of_isJson (Entries.isJson_get json "schema")]
  rfl

/-! ### Bodies among parameters -/

/-- A parameter that is in the body. -/
def isBody (fields : Entries) : Bool := (fields.get "in").string? == some "body"

/-- A letter with which neither a number nor a constant is written. -/
def isForeign (letter : Char) : Bool :=
  !Binary64.isNumeralCharacter letter && !"infNoneTrueFalse".toList.contains letter

theorem notMem_of_isForeign {letter : Char} (foreign : isForeign letter = true) {text : String}
    (familiar : text.toList.all (!isForeign ·) = true) : letter ∉ text.toList := by
  intro member
  simpa [foreign] using List.all_eq_true.1 familiar letter member

theorem notMem_display {letter : Char} (foreign : isForeign letter = true) (number : Binary64) :
    letter ∉ number.display.toList := by
  cases number with
  | notANumber => exact notMem_of_isForeign foreign (by decide)
  | infinite negative => cases negative <;> exact notMem_of_isForeign foreign (by decide)
  | finite negative significand exponent =>
    intro member
    rw [isForeign, Binary64.isNumeralCharacter_of_mem_write member] at foreign
    cases foreign

theorem notMem_toString {letter : Char} (foreign : isForeign letter = true) (number : Int) :
    letter ∉ (toString number).toList := by
  intro member
  rw [isForeign, Binary64.isNumeralCharacter_of_mem_toString member] at foreign
  cases foreign

/-- A word as which nothing but its text reads: it does not begin as a collection, and some letter
of it is in no number and in no constant. -/
def isUnmistakable (word : String) : Bool :=
  word.toList.any isForeign && !word.toList.head?.any ['[', '\x7b'].contains

/-- Only a text of a JSON document reads as a word that cannot be mistaken. -/
theorem text_eq_iff {value : Value} (json : value.isJson = true) {word : String}
    (unmistakable : isUnmistakable word = true) :
    value.text = word ↔ value.string? = some word := by
  rw [isUnmistakable, Bool.and_eq_true, Bool.not_eq_true', List.any_eq_true] at unmistakable
  obtain ⟨⟨letter, among, foreign⟩, unbracketed⟩ := unmistakable
  have free {text : String} (none : letter ∉ text.toList) : text ≠ word := by
    rintro rfl
    exact none among
  have constant {text : String} (familiar : text.toList.all (!isForeign ·) = true) :
      text ≠ word :=
    free (notMem_of_isForeign foreign familiar)
  have bracketed (bracket : Char) {rest : String}
      (first : ['[', '\x7b'].contains bracket = true) : String.ofList [bracket] ++ rest ≠ word := by
    rintro rfl
    rw [String.toList_append, String.toList_ofList, List.cons_append, List.head?_cons,
      Option.any_some, first] at unbracketed
    cases unbracketed
  have unlike {value : Value} (missing : value.string? = none) : value.string? ≠ some word := by
    simp [missing]
  cases value with
  | scalar content =>
    cases content with
    | string text => simp [Value.text, Scalar.text, Value.string?]
    | null => exact iff_of_false (constant (by decide)) (unlike rfl)
    | bool answer => cases answer <;> exact iff_of_false (constant (by decide)) (unlike rfl)
    | int number => exact iff_of_false (free (notMem_toString foreign number)) (unlike rfl)
    | float number => exact iff_of_false (free (notMem_display foreign number)) (unlike rfl)
    | date _ | timestamp _ | binary _ => cases json
  | list items =>
    refine iff_of_false ?_ (unlike rfl)
    show (Value.list items).shown ≠ word
    rw [Value.shown, Value.shownIn, String.append_assoc]
    exact bracketed '[' (by decide)
  | map entries =>
    refine iff_of_false ?_ (unlike rfl)
    show (Value.map entries).shown ≠ word
    rw [Value.shown, Value.shownIn, String.append_assoc]
    exact bracketed '\x7b' (by decide)
  | set _ | pair _ _ | knot _ _ | again _ _ => cases json

/-- A parameter in the body is one that is read as such. -/
theorem location_parameterOf_eq_body_iff {fields : Entries}
    (json : Value.areAllJson fields = true) :
    (parameterOf fields).location = "body" ↔ isBody fields = true := by
  rw [isBody, Entries.get, beq_iff_eq]
  show ((fields.get? "in").getD (.string "query")).text = "body" ↔ _
  cases found : fields.get? "in" with
  | none => exact iff_of_false (by decide) (fun same => by cases same)
  | some item => exact text_eq_iff (Entries.isJson_of_get? json found) (by decide)

/-! ### Values that are no references -/

/-- The entries of a map that is no reference. -/
def IsPlain (fields : Entries) : Prop := (fields.get "$ref").string? = none

theorem dereferenced_of_isPlain (root : Value) {fields : Entries} (plain : IsPlain fields) :
    dereferenced root (.map fields) = .ok (.map fields) := by
  have none : Pointer.reference? (.map fields) = Option.none := plain
  unfold dereferenced ofDocument Pointer.dereference Pointer.longestChain Pointer.follow
  rw [none]
  rfl

theorem reference?_of_follow {root value found : Value} {hops : Nat} {seen : List String}
    (followed : Pointer.follow root hops seen value = .ok found) :
    Pointer.reference? found = none := by
  induction hops generalizing seen value with
  | zero =>
    unfold Pointer.follow at followed
    split at followed
    · next none => exact Except.ok.inj followed ▸ none
    · cases followed
  | succ hops inductionHypothesis =>
    unfold Pointer.follow at followed
    split at followed
    · next none => exact Except.ok.inj followed ▸ none
    · split at followed
      · cases followed
      · obtain ⟨next, _, further⟩ := (bind_eq_ok_iff _ _ _).1 followed
        exact inductionHypothesis further

/-- What references lead to is no reference. -/
theorem isPlain_of_dereferenced {root value found : Value}
    (followed : dereferenced root value = .ok found) {fields : Entries}
    (entries : found.entries? = some fields) : IsPlain fields := by
  unfold dereferenced ofDocument Pointer.dereference at followed
  cases here : Pointer.follow root Pointer.longestChain [] value with
  | error cause => rw [here] at followed; cases followed
  | ok other =>
    rw [here] at followed
    obtain rfl := Except.ok.inj followed
    have none := reference?_of_follow here
    rwa [Pointer.reference?, Value.entriesOrEmpty, entries] at none

theorem isPlain_of_dereferencedMaps {root value : Value} {maps : List Entries}
    (followed : dereferencedMaps root value = .ok maps) : ∀ fields ∈ maps, IsPlain fields := by
  intro fields member
  obtain ⟨items, each, same⟩ := (bind_eq_ok_iff _ _ _).1 followed
  obtain rfl := Except.ok.inj same
  obtain ⟨item, among, found⟩ := List.mem_filterMap.1 member
  obtain ⟨source, _, followed⟩ := (mem_iff_of_mapM each item).1 among
  exact isPlain_of_dereferenced followed found

theorem dereferencedMaps_of_isPlain (root : Value) {maps : List Entries}
    (plain : ∀ fields ∈ maps, IsPlain fields) :
    dereferencedMaps root (.list (maps.map .map)) = .ok maps := by
  have each : (maps.map Value.map).mapM (dereferenced root) = .ok (maps.map .map) := by
    refine (mapM_eq_ok_iff _ _ _).2 (List.forall₂_map_left_iff.2 (List.forall₂_map_right_iff.2
      (List.forall₂_same.2 fun fields member => ?_)))
    exact dereferenced_of_isPlain root (plain fields member)
  have entries : (maps.map Value.map).filterMap Value.entries? = maps := by
    rw [List.filterMap_map]
    exact List.filterMap_some
  unfold dereferencedMaps
  show (maps.map Value.map).mapM (dereferenced root) >>= _ = _
  rw [each]
  exact congrArg Except.ok entries

/-! ### Following responses -/

/-- The responses of an operation that are maps after following references. -/
def followedResponses (root value : Value) :
    Except ExtractionError (List (Scalar × Entries)) := do
  let found ← value.entriesOrEmpty.mapM fun entry => do
    let response ← dereferenced root entry.2
    pure (response.entries?.map (entry.1, ·))
  pure (found.filterMap id)

/-- Responses under the texts of their statuses, of which the last of each counts. -/
def statusesOf (followed : List (Scalar × Entries)) : List (String × (String × Entries)) :=
  Ordered.ofList (followed.map fun entry => (entry.1.text, (entry.1.text, entry.2)))

/-- What is made of the product of each step may be made after all steps. -/
theorem mapM_eq_map {Item Product Further Fault : Type} {step : Item → Except Fault Product}
    {make : Product → Further} {steps : Item → Except Fault Further} {items : List Item}
    (each : ∀ item ∈ items, steps item = (step item).map make) :
    items.mapM steps = (items.mapM step).map (List.map make) := by
  induction items with
  | nil => rfl
  | cons item rest inductionHypothesis =>
    rw [List.mapM_cons, List.mapM_cons, each item List.mem_cons_self,
      inductionHypothesis fun other member => each other (List.mem_cons_of_mem _ member)]
    cases step item with
    | error fault => rfl
    | ok product => cases rest.mapM step <;> rfl

theorem responses_of_isJson {read : String → Entries → Except ExtractionError Response}
    {make : String → Entries → Response} {root value : Value}
    (there : ∀ entry ∈ value.entriesOrEmpty, ∀ response,
      dereferenced root entry.2 = .ok response → response.isJson = true)
    (each : ∀ status fields, Value.areAllJson fields = true →
      read status fields = .ok (make status fields)) :
    responses read root value =
      (followedResponses root value).map fun followed =>
        (statusesOf followed).map fun entry => (entry.1, make entry.2.1 entry.2.2) := by
  -- The texts of the statuses and the responses themselves are made after all references are
  -- followed.
  refine (congrArg (· >>= fun found => pure (Ordered.ofList (found.filterMap id)))
    (@mapM_eq_map _ _ _ _
      (fun entry : Scalar × Value => do
        let response ← dereferenced root entry.2
        pure (response.entries?.map (entry.1, ·)))
      (Option.map fun found : Scalar × Entries => (found.1.text, make found.1.text found.2)) _ _
      fun entry member => ?_)).trans ?_
  · have json := there entry member
    cases followed : dereferenced root entry.2 with
    | error fault => rfl
    | ok response =>
      cases found : response.entries? with
      | none => simp only [bind, Except.bind, found]; rfl
      | some fields =>
        have made := each entry.1.text fields
          (Value.areAllJson_of_entries? (json response followed) found)
        simp only [bind, Except.bind, found, made]
        rfl
  unfold followedResponses statusesOf
  cases value.entriesOrEmpty.mapM fun entry => (do
      let response ← dereferenced root entry.2
      pure (response.entries?.map (entry.1, ·)) :
        Except ExtractionError (Option (Scalar × Entries))) with
  | error fault => rfl
  | ok found =>
    have kept : (found.map (Option.map fun response : Scalar × Entries =>
        (response.1.text, make response.1.text response.2))).filterMap id =
        ((found.filterMap id).map fun entry => (entry.1.text, (entry.1.text, entry.2))).map
          fun entry => (entry.1, make entry.2.1 entry.2.2) := by
      rw [List.filterMap_map, List.map_map, List.map_filterMap]
      rfl
    exact congrArg Except.ok ((congrArg Ordered.ofList kept).trans
      (Placement.map_ofList (fun item : String × Entries => make item.1 item.2) _).symm)

/-! ### The rendition -/

section

variable (change : Value → Value)

/-- A parameter with its schemas changed: the one that stands under its own keyword, and that of
the items among its own keywords. -/
def renderedParameter (fields : Entries) : Entries :=
  fields.changed fun keyword item =>
    if keyword == "schema" || keyword == "items" then change item else item

/-- The media object that carries a schema. -/
def renderedMedia (schema : Value) : Value := .map [(.string "schema", change schema)]

/-- A parameter in the body as a request body that may have any of these types. -/
def renderedBody (consumes : List String) (fields : Entries) : Entries :=
  [(.string "required", fields.get "required"),
    (.string "content", .map (consumes.eraseDups.map fun type =>
      (.string type, renderedMedia change (fields.get "schema"))))]

/-- A response whose schema, if it is a map, is that of a type of content. -/
def renderedResponse (media : String) (fields : Entries) : Entries :=
  (.string "description", fields.get "description") ::
    if (fields.get "schema").entries?.isSome then
      [(.string "content", .map [(.string media, renderedMedia change (fields.get "schema"))])]
    else []

/-- The fields in which an operation describes itself. -/
def describingKeywords : List String :=
  ["operationId", "summary", "description", "tags", "deprecated"]

/-- An operation of the older generation as the newer one writes it, given the types of content
that it consumes, its merged parameters, and its responses. -/
def rendition (media : Scalar → String) (consumes : List String) (parameters : List Entries)
    (followed : List (Scalar × Entries)) (fields : Entries) : Entries :=
  (describingKeywords.map fun keyword => (.string keyword, fields.get keyword)) ++
    [(.string "parameters", .list ((parameters.filter (!isBody ·)).map fun parameter =>
        .map (renderedParameter change parameter))),
      (.string "responses", .map (followed.map fun entry =>
        (entry.1, .map (renderedResponse change (media entry.1) entry.2))))] ++
    ((parameters.find? isBody).map fun parameter =>
      (.string "requestBody", .map (renderedBody change consumes parameter))).toList

end

/-! ### Rendered parameters -/

section

variable {change : Value → Value} (only : OnlyMoves change)

include only

theorem isJson_renderedParameter {fields : Entries} (json : Value.areAllJson fields = true) :
    Value.areAllJson (renderedParameter change fields) = true := by
  refine Entries.areAllJson_changed json fun keyword entry member => ?_
  have here := ((Value.areAllJson_iff fields).1 json entry member).2
  split
  · exact only.json _ here
  · exact here

omit only in
theorem get?_renderedParameter {keyword : String}
    (other : (keyword == "schema" || keyword == "items") = false) (fields : Entries) :
    (renderedParameter change fields).get? keyword = fields.get? keyword := by
  rw [renderedParameter, Entries.get?_changed, other]
  exact Option.map_id'

/-- The schema that a parameter's own keywords make has the same type. -/
theorem schemaType_inlineSchema {fields : Entries} (json : Value.areAllJson fields = true) :
    (inlineSchema (renderedParameter change fields)).schemaType =
      (inlineSchema fields).schemaType := by
  have jsonAfter := isJson_inlineSchema (isJson_renderedParameter only json)
  rw [← schemaType_moved jsonAfter, ← schemaType_moved (isJson_inlineSchema json)]
  refine congrArg Value.schemaType ?_
  unfold inlineSchema Entries.has
  rw [get?_renderedParameter (by decide)]
  split
  · rw [moved_map, moved_map, Entries.changed, Entries.changed, List.map_filterMap,
      List.map_filterMap]
    refine congrArg Value.map (List.filterMap_congr fun keyword member => ?_)
    rw [renderedParameter, Entries.get?_changed]
    cases found : Entries.get? keyword fields with
    | none => rfl
    | some item =>
      have here := Entries.isJson_of_get? json found
      by_cases items : keyword = "items"
      · subst items
        exact congrArg (fun item => some (Scalar.string "items", item)) (only.moves item here)
      · have plain : (keyword == "schema" || keyword == "items") = false := by
          have apart : keyword ≠ "schema" := by
            rintro rfl
            exact absurd member (by decide)
          simp [apart, items]
        rw [plain]
        rfl
  · rfl

theorem get_schema_renderedParameter {fields : Entries} :
    (renderedParameter change fields).get "schema" = change (fields.get "schema") :=
  Entries.get_changed (only.eq_of_entries?_eq_none rfl rfl) fields

/-- A parameter that is not in the body gives the same argument when it is rendered. -/
theorem isLike_renderedParameter {fields : Entries} (json : Value.areAllJson fields = true)
    (apart : isBody fields = false) :
    (parameterOf fields).IsLike (parameterOf (renderedParameter change fields)) := by
  have place : placeOf (renderedParameter change fields) = placeOf fields := by
    rw [placeOf, placeOf, get?_renderedParameter (by decide), get?_renderedParameter (by decide)]
  have plain (keyword : String) (other : (keyword == "schema" || keyword == "items") = false) :
      (renderedParameter change fields).get keyword = fields.get keyword := by
    rw [Entries.get, Entries.get, get?_renderedParameter other]
  have location : ((placeOf fields).2 == "body") = false := by
    rw [beq_eq_false_iff_ne]
    intro same
    rw [(location_parameterOf_eq_body_iff json).1 same] at apart
    cases apart
  constructor
  · rw [parameterOf, parameterOf, place]
  · rw [parameterOf, parameterOf, place]
  · rw [parameterOf, parameterOf, plain "required" (by decide)]
  · rw [parameterOf, parameterOf, plain "description" (by decide)]
  · have jsonAfter := isJson_renderedParameter only json
    have schema := Entries.isJson_get json "schema"
    rw [parameterOf, parameterOf, place, result_resolve_of_isJson (isJson_parameterSchema json _),
      result_resolve_of_isJson (isJson_parameterSchema jsonAfter _)]
    unfold parameterSchema
    rw [get_schema_renderedParameter only]
    dsimp only
    rw [only.isSome_entries? schema, location]
    split
    · rw [only.schemaType schema]
    · rw [schemaType_inlineSchema only json]

end

/-! ### Rendered bodies -/

/-- What is read of a request body that renders a parameter. -/
def renderedBodyOf (change : Value → Value) (consumes : List String) (fields : Entries) :
    RequestBody where
  required := (fields.get "required").isTrue
  description := none
  contentTypes := consumes.eraseDups
  schema := schemaIn? (change (fields.get "schema"))

section

variable {change : Value → Value} (only : OnlyMoves change) {consumes : List String}
  (consumed : consumes ≠ [])

include consumed

theorem head?_eraseDups : consumes.eraseDups.head? = consumes.head? := by
  cases consumes with
  | nil => rfl
  | cons first rest => rw [List.eraseDups_cons]; rfl

include only

theorem requestBody_renderedBody (root : Value) {fields : Entries}
    (json : Value.areAllJson fields = true) :
    requestBody root (.map (renderedBody change consumes fields)) =
      .ok (some (renderedBodyOf change consumes fields)) := by
  have plain : IsPlain (renderedBody change consumes fields) := rfl
  have schema := only.json _ (Entries.isJson_get json "schema")
  have first : firstSchema (consumes.eraseDups.map fun type =>
      (Scalar.string type, renderedMedia change (fields.get "schema"))) =
      .ok (schemaIn? (change (fields.get "schema"))) := by
    have some := head?_eraseDups consumed
    cases types : consumes.eraseDups with
    | nil =>
      rw [types] at some
      exact absurd (List.head?_eq_none_iff.1 some.symm) consumed
    | cons type rest => exact schemaOf?_of_isJson schema
  have texts : keyTexts (consumes.eraseDups.map fun type =>
      (Scalar.string type, renderedMedia change (fields.get "schema"))) = consumes.eraseDups := by
    rw [keyTexts, List.map_map]
    exact List.map_id' _
  unfold requestBody
  rw [dereferenced_of_isPlain root plain]
  show (do
    let schema ← firstSchema (consumes.eraseDups.map fun type =>
      (Scalar.string type, renderedMedia change (fields.get "schema")))
    pure (some
      { required := (fields.get "required").isTrue
        description := none
        contentTypes := keyTexts (consumes.eraseDups.map fun type =>
          (Scalar.string type, renderedMedia change (fields.get "schema")))
        schema }) : Except ExtractionError (Option RequestBody)) = _
  rw [first, texts]
  rfl

/-- A parameter in the body gives the same argument when it is rendered. -/
theorem isLike_renderedBody {fields : Entries} (json : Value.areAllJson fields = true)
    (body : isBody fields = true) :
    (bodyOfParameter consumes (parameterOf fields)).IsLike
      (renderedBodyOf change consumes fields) where
  required := rfl
  contentType := (head?_eraseDups consumed).symm
  type := by
    have schema := Entries.isJson_get json "schema"
    have location : (placeOf fields).2 = "body" := (location_parameterOf_eq_body_iff json).2 body
    have own : parameterSchema fields (placeOf fields).2 = fields.get "schema" := by
      rw [location, parameterSchema]
      exact if_pos (Bool.or_true _)
    rw [renderedBodyOf, result_resolveOptional_of_isJson (only.json _ schema),
      only.schemaType schema, bodyOfParameter, parameterOf, own]
    exact result_resolve_of_isJson schema

end

/-! ### Rendered responses -/

/-- The schema of the first media type of a content map. -/
def firstSchemaIn? : Entries → Option SchemaNode
  | (_, media) :: _ => schemaIn? (media.entriesOrEmpty.get "schema")
  | [] => none

/-- What is read of a response of the newer generation. -/
def responseOf (status : String) (fields : Entries) : Response where
  statusCode := status
  description := (fields.get "description").string?
  contentTypes := keyTexts (fields.get "content").entriesOrEmpty
  hasContent := (fields.get "content").entries?.isSome
  schema := firstSchemaIn? (fields.get "content").entriesOrEmpty

theorem firstSchema_of_isJson {content : Entries} (json : Value.areAllJson content = true) :
    firstSchema content = .ok (firstSchemaIn? content) := by
  cases content with
  | nil => rfl
  | cons first rest =>
    have media := ((Value.areAllJson_iff _).1 json first List.mem_cons_self).2
    exact schemaOf?_of_isJson (Entries.isJson_get (Value.areAllJson_entriesOrEmpty media) "schema")

theorem response_of_isJson (status : String) {fields : Entries}
    (json : Value.areAllJson fields = true) :
    response status fields = .ok (responseOf status fields) := by
  have content := Value.areAllJson_entriesOrEmpty (Entries.isJson_get json "content")
  unfold response
  show (do
    let schema ← firstSchema (fields.get "content").entriesOrEmpty
    pure { (responseOf status fields) with schema } : Except ExtractionError Response) = _
  rw [firstSchema_of_isJson content]
  rfl

section

variable {change : Value → Value} (only : OnlyMoves change)

include only

theorem isJson_renderedResponse (media : String) {fields : Entries}
    (json : Value.areAllJson fields = true) :
    Value.areAllJson (renderedResponse change media fields) = true := by
  have description := Entries.isJson_get json "description"
  have schema := only.json _ (Entries.isJson_get json "schema")
  unfold renderedResponse
  split <;> simp [Value.areAllJson, Scalar.isJsonKey, renderedMedia, Value.isJson, description,
    schema]

/-- A response gives the same type and documentation when it is rendered. -/
theorem isLike_renderedResponse (produces : List String) (status media : String)
    {fields : Entries} (json : Value.areAllJson fields = true) :
    (swaggerResponseOf produces status fields).IsLike
      (responseOf status (renderedResponse change media fields)) := by
  have schema := Entries.isJson_get json "schema"
  cases found : (fields.get "schema").entries?.isSome with
  | true =>
    have rendered : renderedResponse change media fields =
        [(.string "description", fields.get "description"),
          (.string "content",
            .map [(.string media, renderedMedia change (fields.get "schema"))])] := by
      rw [renderedResponse, if_pos found]
    have own : schemaIn? (fields.get "schema") = some (parseSchema (fields.get "schema")) :=
      if_pos found
    rw [rendered]
    refine ⟨rfl, ?_, ?_⟩
    · rw [swaggerResponseOf, own]
      rfl
    · show (resolveOptional (schemaIn? (fields.get "schema"))).result =
        (resolveOptional (schemaIn? (change (fields.get "schema")))).result
      rw [result_resolveOptional_of_isJson schema,
        result_resolveOptional_of_isJson (only.json _ schema), only.schemaType schema]
  | false =>
    have rendered : renderedResponse change media fields =
        [(.string "description", fields.get "description")] := by
      rw [renderedResponse, found]
      rfl
    have none : schemaIn? (fields.get "schema") = Option.none := by
      rw [schemaIn?, found]
      rfl
    rw [rendered]
    refine ⟨rfl, ?_, ?_⟩ <;> rw [swaggerResponseOf, none] <;> rfl

end

/-! ### Rendered operations -/

/-- The types of content that an operation consumes: its own, or those of the document. -/
def consumedTypes (entries fields : Entries) : List String :=
  listOr (textsOf (entries.get "consumes")) (textsOf (fields.get "consumes"))

section

variable {entries : Entries} (json : Value.areAllJson entries = true) {swagger : Bool}
  {ofPath : List Entries} {fields : Entries} {read : Operation}
  (source : IsReadFrom entries swagger ofPath fields read)

include json source

/-- An operation is read over JSON values. -/
theorem areAllJson_of_isReadFrom : Value.areAllJson fields = true ∧ AreJsonMaps ofPath ∧
    ∀ shared ∈ ofPath, IsPlain shared := by
  obtain ⟨⟨items, entry, pathFields, found, member, item, declared, _⟩, _⟩ := source
  have whole : (Value.map entries).isJson = true := json
  have paths := Value.areAllJson_of_entries? (Entries.isJson_get json "paths") found
  have here := ((Value.areAllJson_iff _).1 paths entry member).2
  obtain ⟨value, followed, present⟩ := item.item
  have pathJson := Value.areAllJson_of_entries? ((ends_dereferenced whole here).of_ok followed)
    present
  obtain ⟨verb, _, named⟩ := List.mem_filterMap.1 declared
  obtain ⟨operation, under, same⟩ := Option.map_eq_some_iff.1 named
  obtain rfl := (Prod.mk.inj same).2
  have shared := ends_dereferencedMaps whole (Entries.isJson_get pathJson "parameters")
  exact ⟨Value.areAllJson_of_entries? (Entries.isJson_get pathJson _) under,
    shared.of_ok item.parameters, isPlain_of_dereferencedMaps item.parameters⟩

end

/-! ### Reading an operation -/

/-- What an operation says of itself, without its parts. -/
def described (path : String) (verb : Verb) (fields : Entries) : Operation where
  path
  verb
  operationId :=
    if (fields.get "operationId").isFilled then some (fields.get "operationId").text else none
  summary := (fields.get "summary").string?
  description := (fields.get "description").string?
  tags := textsOf (fields.get "tags")
  deprecated := (fields.get "deprecated").isTrue
  parameters := []
  requestBody := none
  responses := []

theorem operation_eq_ok_iff (root : Value) (swagger : Bool) (defaults : MediaDefaults)
    (path : String) (ofPath : List Entries) (verb : Verb) (fields : Entries) (read : Operation) :
    operation root swagger defaults path ofPath verb fields = .ok read ↔
      ∃ parts found, parametersAndBody root swagger defaults ofPath fields = .ok parts ∧
        responses (responseReader swagger defaults fields) root (fields.get "responses") =
          .ok found ∧
        { described path verb fields with
          parameters := parts.1, requestBody := parts.2, responses := found } = read := by
  simp only [operation, bind_eq_ok_iff, pure, Except.pure, Except.ok.injEq]
  constructor
  · rintro ⟨parts, here, found, there, same⟩
    exact ⟨parts, found, here, there, same⟩
  · rintro ⟨parts, found, here, there, same⟩
    exact ⟨parts, here, found, there, same⟩

/-- Responses that were read one by one, under their statuses. -/
def responsesOf (make : String → Entries → Response) (followed : List (Scalar × Entries)) :
    List (String × Response) :=
  (statusesOf followed).map fun entry => (entry.1, make entry.2.1 entry.2.2)

/-- Responses that are JSON values after following references are maps of JSON values. -/
theorem areJsonMaps_followedResponses {root value : Value}
    (there : ∀ entry ∈ value.entriesOrEmpty, ∀ response,
      dereferenced root entry.2 = .ok response → response.isJson = true)
    {followed : List (Scalar × Entries)} (found : followedResponses root value = .ok followed) :
    AreJsonMaps (followed.map Prod.snd) := by
  intro fields member
  obtain ⟨entry, among, rfl⟩ := List.mem_map.1 member
  obtain ⟨responses, each, same⟩ := (bind_eq_ok_iff _ _ _).1 found
  obtain rfl := Except.ok.inj same
  obtain ⟨other, here, rfl⟩ := List.mem_filterMap.1 among
  obtain ⟨source, stands, made⟩ := (mem_iff_of_mapM each _).1 here
  obtain ⟨response, followed, rest⟩ := (bind_eq_ok_iff _ _ _).1 made
  obtain ⟨fields, entries, rfl⟩ := Option.map_eq_some_iff.1 (Except.ok.inj rest)
  exact Value.areAllJson_of_entries? (there source stands response followed) entries

section

variable {root : Value} (json : root.isJson = true) {defaults : MediaDefaults} {path : String}
  {ofPath : List Entries} {verb : Verb} {fields : Entries} {read : Operation}
  (here : Value.areAllJson fields = true) (shared : AreJsonMaps ofPath)
  (plain : ∀ parameter ∈ ofPath, IsPlain parameter)
  (made : operation root true defaults path ofPath verb fields = .ok read)

include json here shared plain made

/-- The parts of an operation of the older generation. -/
theorem exists_parts_of_operation :
    ∃ ofOperation parameters followed,
      dereferencedMaps root (fields.get "parameters") = .ok ofOperation ∧
      mergedParameters ofPath ofOperation = .ok parameters ∧
      followedResponses root (fields.get "responses") = .ok followed ∧
      AreJsonMaps parameters ∧ (∀ parameter ∈ parameters, IsPlain parameter) ∧
      parameters.findSome? incomparableKey? = none ∧
      AreJsonMaps (followed.map Prod.snd) ∧
      read =
        { described path verb fields with
          parameters := (parameters.map parameterOf).filter (·.location != "body")
          requestBody := ((parameters.map parameterOf).find? (·.location == "body")).map
            (bodyOfParameter (listOr defaults.consumes (textsOf (fields.get "consumes"))))
          responses := responsesOf
            (swaggerResponseOf (listOr defaults.produces (textsOf (fields.get "produces"))))
            followed } := by
  obtain ⟨parts, found, split, answers, rfl⟩ := (operation_eq_ok_iff _ _ _ _ _ _ _ _).1 made
  simp only [parametersAndBody, bind_eq_ok_iff] at split
  obtain ⟨ofOperation, own, parameters, merging, readAll, each, body⟩ := split
  have ownJson := (ends_dereferencedMaps json (Entries.isJson_get here "parameters")).of_ok own
  have mergedJson := (ends_mergedParameters shared ownJson).of_ok merging
  obtain ⟨comparable, whole⟩ := (mergedParameters_eq_ok_iff _ _ _).1 merging
  have among {parameter : Entries} (member : parameter ∈ parameters) :
      parameter ∈ ofPath ∨ parameter ∈ ofOperation := by
    rw [← whole, merged, List.mem_append] at member
    exact member.imp_left List.mem_of_mem_filter
  have mergedPlain : ∀ parameter ∈ parameters, IsPlain parameter := by
    intro parameter member
    exact (among member).elim (plain parameter) (isPlain_of_dereferencedMaps own parameter)
  have mergedComparable : parameters.findSome? incomparableKey? = none := by
    rw [List.findSome?_eq_none_iff] at comparable ⊢
    intro parameter member
    exact comparable parameter (List.mem_append.2 (among member).symm)
  have responses := Value.areAllJson_entriesOrEmpty (Entries.isJson_get here "responses")
  have there : ∀ entry ∈ (Entries.get "responses" fields).entriesOrEmpty, ∀ response,
      dereferenced root entry.2 = .ok response → response.isJson = true := by
    intro entry member response followed
    exact (ends_dereferenced json ((Value.areAllJson_iff _).1 responses entry member).2).of_ok
      followed
  have reader : responseReader true defaults fields =
      swaggerResponse (listOr defaults.produces (textsOf (fields.get "produces"))) := rfl
  rw [reader, responses_of_isJson there fun status fields => swaggerResponse_of_isJson _ status]
    at answers
  obtain ⟨followed, responded, same⟩ : ∃ followed,
      followedResponses root (fields.get "responses") = .ok followed ∧
        responsesOf (swaggerResponseOf (listOr defaults.produces
          (textsOf (fields.get "produces")))) followed = found := by
    cases responded : followedResponses root (fields.get "responses") with
    | error fault => rw [responded] at answers; cases answers
    | ok followed => rw [responded] at answers; exact ⟨followed, rfl, Except.ok.inj answers⟩
  refine ⟨ofOperation, parameters, followed, own, merging, responded, mergedJson, mergedPlain,
    mergedComparable, areJsonMaps_followedResponses there responded, ?_⟩
  rw [mapM_parameter_of_isJson mergedJson] at each
  obtain rfl := Except.ok.inj each
  obtain rfl := Except.ok.inj body
  rw [← same]
  rfl

end

/-! ### Reading a rendition -/

/-- What is read of a rendition. -/
def renderedOperation (change : Value → Value) (media : Scalar → String) (consumes : List String)
    (path : String) (verb : Verb) (parameters : List Entries) (followed : List (Scalar × Entries))
    (fields : Entries) : Operation :=
  { described path verb fields with
    parameters := ((parameters.filter (!isBody ·)).map (renderedParameter change)).map parameterOf
    requestBody := (parameters.find? isBody).map (renderedBodyOf change consumes)
    responses := responsesOf responseOf (followed.map fun entry =>
      (entry.1, renderedResponse change (media entry.1) entry.2)) }

section

variable {change : Value → Value} (media : Scalar → String) (consumes : List String)
  (parameters : List Entries) (followed : List (Scalar × Entries)) (fields : Entries)

theorem get_parameters_rendition :
    (rendition change media consumes parameters followed fields).get "parameters" =
      .list (((parameters.filter (!isBody ·)).map (renderedParameter change)).map .map) := by
  rw [List.map_map]
  rfl

theorem get_responses_rendition :
    (rendition change media consumes parameters followed fields).get "responses" =
      .map ((followed.map fun entry =>
        (entry.1, renderedResponse change (media entry.1) entry.2)).map fun entry =>
          (entry.1, .map entry.2)) := by
  rw [List.map_map]
  rfl

theorem get_requestBody_rendition :
    (rendition change media consumes parameters followed fields).get "requestBody" =
      ((parameters.find? isBody).map fun parameter =>
        Value.map (renderedBody change consumes parameter)).getD .null := by
  unfold rendition
  cases parameters.find? isBody <;> rfl

/-- Responses that are no references are read as they stand. -/
theorem followedResponses_of_isPlain (root : Value) {maps : List (Scalar × Entries)}
    (plain : ∀ entry ∈ maps, IsPlain entry.2) :
    followedResponses root (.map (maps.map fun entry => (entry.1, .map entry.2))) = .ok maps := by
  have each : (maps.map fun entry => (entry.1, Value.map entry.2)).mapM (fun entry => do
      let response ← dereferenced root entry.2
      pure (response.entries?.map (entry.1, ·)) :
        Scalar × Value → Except ExtractionError (Option (Scalar × Entries))) =
      .ok (maps.map some) := by
    refine (mapM_eq_ok_iff _ _ _).2 (List.forall₂_map_left_iff.2 (List.forall₂_map_right_iff.2
      (List.forall₂_same.2 fun entry member => ?_)))
    rw [dereferenced_of_isPlain root (plain entry member)]
    rfl
  have all : (maps.map some).filterMap id = maps := by
    rw [List.filterMap_map]
    exact List.filterMap_some
  unfold followedResponses
  refine (congrArg (· >>= fun found => pure (found.filterMap id)) each).trans ?_
  exact congrArg Except.ok all

end

section

variable {change : Value → Value} (only : OnlyMoves change)

include only

/-- Rendered parameters are JSON values, no references, and can be told apart, as before. -/
theorem keeps_renderedParameter {parameters : List Entries} (json : AreJsonMaps parameters)
    (plain : ∀ parameter ∈ parameters, IsPlain parameter)
    (comparable : parameters.findSome? incomparableKey? = none) :
    AreJsonMaps ((parameters.filter (!isBody ·)).map (renderedParameter change)) ∧
      (∀ parameter ∈ (parameters.filter (!isBody ·)).map (renderedParameter change),
        IsPlain parameter) ∧
      ((parameters.filter (!isBody ·)).map (renderedParameter change)).findSome?
        incomparableKey? = none := by
  have each {motive : Entries → Prop}
      (one : ∀ parameter ∈ parameters, motive (renderedParameter change parameter)) :
      ∀ parameter ∈ (parameters.filter (!isBody ·)).map (renderedParameter change),
        motive parameter := by
    intro parameter member
    obtain ⟨source, among, rfl⟩ := List.mem_map.1 member
    exact one source (List.mem_of_mem_filter among)
  refine ⟨each fun parameter member => isJson_renderedParameter only (json parameter member),
    each fun parameter member => ?_, List.findSome?_eq_none_iff.2 (each fun parameter member => ?_)⟩
  · rw [IsPlain, Entries.get, get?_renderedParameter (by decide)]
    exact plain parameter member
  · rw [incomparableKey?, rawKey, get?_renderedParameter (by decide),
      get?_renderedParameter (by decide)]
    exact List.findSome?_eq_none_iff.1 comparable parameter member

/-- The responses of a rendition are read whatever document it stands in. -/
theorem responses_rendition (media : Scalar → String) {followed : List (Scalar × Entries)}
    (answers : AreJsonMaps (followed.map Prod.snd)) (root : Value) (defaults : MediaDefaults)
    (consumes : List String) (parameters : List Entries) (fields : Entries) :
    responses (responseReader false defaults
        (rendition change media consumes parameters followed fields)) root
        ((rendition change media consumes parameters followed fields).get "responses") =
      .ok (responsesOf responseOf (followed.map fun entry =>
        (entry.1, renderedResponse change (media entry.1) entry.2))) := by
  have plain : ∀ entry ∈ followed.map fun entry =>
      (entry.1, renderedResponse change (media entry.1) entry.2), IsPlain entry.2 := by
    intro entry member
    obtain ⟨source, _, rfl⟩ := List.mem_map.1 member
    unfold IsPlain renderedResponse
    split <;> rfl
  rw [get_responses_rendition]
  refine (responses_of_isJson (fun entry member response found => ?_)
    fun status fields => response_of_isJson status).trans ?_
  · obtain ⟨rendered, among, rfl⟩ := List.mem_map.1 member
    obtain rfl := Except.ok.inj
      ((dereferenced_of_isPlain root (plain rendered among)).symm.trans found)
    obtain ⟨source, stands, rfl⟩ := List.mem_map.1 among
    exact isJson_renderedResponse only _ (answers source.2 (List.mem_map_of_mem stands))
  · rw [followedResponses_of_isPlain root plain]
    rfl

end

section

variable {change : Value → Value} (only : OnlyMoves change) (media : Scalar → String)
  {consumes : List String} (consumed : consumes ≠ []) {parameters : List Entries}
  (json : AreJsonMaps parameters) (plain : ∀ parameter ∈ parameters, IsPlain parameter)
  (comparable : parameters.findSome? incomparableKey? = none)
  {followed : List (Scalar × Entries)} (answers : AreJsonMaps (followed.map Prod.snd))

include only consumed json plain comparable

/-- The parameters and the body of a rendition are read whatever document it stands in. -/
theorem parametersAndBody_rendition (root : Value) (defaults : MediaDefaults)
    (followed : List (Scalar × Entries)) (fields : Entries) :
    parametersAndBody root false defaults []
        (rendition change media consumes parameters followed fields) =
      .ok (((parameters.filter (!isBody ·)).map (renderedParameter change)).map parameterOf,
        (parameters.find? isBody).map (renderedBodyOf change consumes)) := by
  obtain ⟨jsonAfter, plainAfter, comparableAfter⟩ :=
    keeps_renderedParameter only json plain comparable
  have own := dereferencedMaps_of_isPlain root plainAfter
  rw [← get_parameters_rendition media consumes parameters followed fields] at own
  have merging : mergedParameters []
      ((parameters.filter (!isBody ·)).map (renderedParameter change)) =
        .ok ((parameters.filter (!isBody ·)).map (renderedParameter change)) := by
    refine (mergedParameters_eq_ok_iff _ _ _).2 ⟨?_, rfl⟩
    rw [List.append_nil]
    exact comparableAfter
  have body : requestBody root
      ((rendition change media consumes parameters followed fields).get "requestBody") =
        .ok ((parameters.find? isBody).map (renderedBodyOf change consumes)) := by
    rw [get_requestBody_rendition]
    cases found : parameters.find? isBody with
    | none => rfl
    | some parameter =>
      exact requestBody_renderedBody only consumed root
        (json parameter (List.mem_of_find?_eq_some found))
  simp only [parametersAndBody, bind_eq_ok_iff]
  exact ⟨_, own, _, merging, _, mapM_parameter_of_isJson jsonAfter,
    (bind_eq_ok_iff _ _ _).2 ⟨_, body, rfl⟩⟩

include answers

/-- A rendition is read whatever document it stands in. -/
theorem operation_rendition (root : Value) (defaults : MediaDefaults) (path : String) (verb : Verb)
    (fields : Entries) :
    operation root false defaults path [] verb
        (rendition change media consumes parameters followed fields) =
      .ok (renderedOperation change media consumes path verb parameters followed fields) := by
  exact (operation_eq_ok_iff _ _ _ _ _ _ _ _).2 ⟨_, _,
    parametersAndBody_rendition only media consumed json plain comparable root defaults _ _,
    responses_rendition only media answers root _ _ _ _, rfl⟩

end

/-! ### The same call -/

section

variable {change : Value → Value} (only : OnlyMoves change) (media : Scalar → String)
  {parameters : List Entries} (json : AreJsonMaps parameters)

include json

/-- Parameters outside the body are told by their own place or by what is read of it. -/
theorem filter_location_eq : (parameters.map parameterOf).filter (·.location != "body") =
    (parameters.filter (!isBody ·)).map parameterOf := by
  rw [List.filter_map]
  refine congrArg (List.map parameterOf) (List.filter_congr fun parameter member => ?_)
  have both := location_parameterOf_eq_body_iff (json parameter member)
  rw [Bool.eq_iff_iff, Function.comp_apply, bne_iff_ne, Bool.not_eq_true', ne_eq, both,
    Bool.not_eq_true]

/-- The first parameter in the body is told by its own place or by what is read of it. -/
theorem find?_location_eq : (parameters.map parameterOf).find? (·.location == "body") =
    (parameters.find? isBody).map parameterOf := by
  rw [List.find?_map, ← List.head?_filter, ← List.head?_filter]
  refine congrArg (fun bodies => Option.map parameterOf bodies.head?)
    (List.filter_congr fun parameter member => ?_)
  rw [Bool.eq_iff_iff, Function.comp_apply, beq_iff_eq,
    location_parameterOf_eq_body_iff (json parameter member)]

include only

theorem isLike_parameters :
    List.Forall₂ Parameter.IsLike ((parameters.filter (!isBody ·)).map parameterOf)
      (((parameters.filter (!isBody ·)).map (renderedParameter change)).map parameterOf) := by
  rw [List.map_map, List.forall₂_map_left_iff, List.forall₂_map_right_iff, List.forall₂_same]
  intro parameter member
  obtain ⟨among, apart⟩ := List.mem_filter.1 member
  exact isLike_renderedParameter only (json parameter among) (by simpa using apart)

end

section

variable {change : Value → Value} (only : OnlyMoves change) (media : Scalar → String)
  {followed : List (Scalar × Entries)} (answers : AreJsonMaps (followed.map Prod.snd))

include only answers

theorem areLikeResponses (produces : List String) :
    AreLikeResponses (responsesOf (swaggerResponseOf produces) followed)
      (responsesOf responseOf (followed.map fun entry =>
        (entry.1, renderedResponse change (media entry.1) entry.2))) := by
  have named (content : Scalar × Entries → Entries) :
      statusesOf (followed.map fun entry => (entry.1, content entry)) =
        (Ordered.ofList (followed.map fun entry => (entry.1.text, entry))).map fun entry =>
          (entry.1, (entry.2.1.text, content entry.2)) := by
    rw [Placement.map_ofList fun entry : Scalar × Entries => (entry.1.text, content entry),
      statusesOf, List.map_map, List.map_map]
    rfl
  have own : statusesOf followed = (Ordered.ofList (followed.map fun entry =>
      (entry.1.text, entry))).map fun entry => (entry.1, (entry.2.1.text, entry.2.2)) := by
    rw [← named Prod.snd, List.map_id']
  unfold responsesOf
  rw [own, named fun entry => renderedResponse change (media entry.1) entry.2]
  unfold AreLikeResponses
  simp only [List.map_map, List.forall₂_map_left_iff, List.forall₂_map_right_iff, List.forall₂_same]
  intro entry member
  obtain ⟨source, among, rfl⟩ := List.mem_map.1 (Placement.mem_of_mem_ofList member)
  exact ⟨rfl, isLike_renderedResponse only produces _ _ (answers _ (List.mem_map_of_mem among))⟩

end

section

variable {change : Value → Value} (only : OnlyMoves change) (media : Scalar → String)
  {consumes : List String} (consumed : consumes ≠ []) {parameters : List Entries}
  (json : AreJsonMaps parameters) {followed : List (Scalar × Entries)}
  (answers : AreJsonMaps (followed.map Prod.snd))

include only consumed json answers

/-- An operation of the older generation and its rendition become the same call. -/
theorem result_callOf_renderedOperation (produces : List String) (path : String) (verb : Verb)
    (fields : Entries) :
    (Assembly.callOf
      { described path verb fields with
        parameters := (parameters.map parameterOf).filter (·.location != "body")
        requestBody := ((parameters.map parameterOf).find? (·.location == "body")).map
          (bodyOfParameter consumes)
        responses := responsesOf (swaggerResponseOf produces) followed }).result =
      (Assembly.callOf
        (renderedOperation change media consumes path verb parameters followed fields)).result := by
  have like := isLike_parameters only json
  rw [filter_location_eq json, find?_location_eq json]
  refine Assembly.result_callOf_of_isLike ⟨rfl, rfl, rfl, rfl, rfl, rfl, rfl⟩ like ?_
    (areLikeResponses only media answers produces)
  cases found : parameters.find? isBody with
  | some parameter =>
    have here := json parameter (List.mem_of_find?_eq_some found)
    have body : isBody parameter = true := List.find?_some found
    refine Assembly.result_bodyOf_of_isLike (isLike_renderedBody only consumed here body) rfl ?_
    rw [renderedOperation, found]
    rfl
  | none =>
    have apart : ∀ parameter ∈ (parameters.filter (!isBody ·)).map parameterOf,
        parameter.location ≠ "body" := by
      rw [← filter_location_eq json]
      intro parameter member
      simpa using (List.mem_filter.1 member).2
    have apartAfter : ∀ parameter ∈
        ((parameters.filter (!isBody ·)).map (renderedParameter change)).map parameterOf,
        parameter.location ≠ "body" := by
      intro parameter member
      obtain ⟨source, among, here⟩ := Placement.exists_mem_of_forall₂ like.flip member
      exact here.location ▸ apart source among
    rw [Assembly.bodyOf_eq_none rfl apart, Assembly.bodyOf_eq_none ?_ apartAfter]
    rw [renderedOperation, found]
    rfl

end

/-! ### Documents with a rendition -/

/-- A document that declares an operation at a path and a verb, where the path has no parameters
of its own. -/
def Declares (entries : Entries) (path : String) (verb : Verb) (fields : Entries) : Prop :=
  ∃ items entry pathFields, (entries.get "paths").entries? = some items ∧ entry ∈ items ∧
    IsPathItem (.map entries) entry pathFields [] ∧
    (verb, fields) ∈ declaredOperations pathFields ∧ path = entry.1.text

/-- A document of the newer generation that declares one operation and nothing else. -/
def declaration (path : String) (verb : Verb) (fields : Entries) : Entries :=
  [(.string "openapi", .string "3.0.0"),
    (.string "paths", .map [(.string path, .map [(.string verb.name, .map fields)])])]

theorem isPathItem_declaration (path : String) (verb : Verb) (fields : Entries) :
    IsPathItem (.map (declaration path verb fields))
      (.string path, .map [(.string verb.name, .map fields)]) [(.string verb.name, .map fields)]
      [] where
  item := ⟨_, dereferenced_of_isPlain _ (by cases verb <;> rfl), rfl⟩
  parameters := by cases verb <;> rfl

theorem declaredOperations_declaration (verb : Verb) (fields : Entries) :
    declaredOperations [(.string verb.name, .map fields)] = [(verb, fields)] := by
  cases verb <;> rfl

/-- A document that declares one operation and nothing else is understood if that operation can be
read. -/
theorem documentOf_declaration {path : String} {verb : Verb} {fields : Entries} {read : Operation}
    (made : operation (.map (declaration path verb fields)) false ⟨[], []⟩ path [] verb fields =
      .ok read) :
    ∃ understood, documentOf (declaration path verb fields) = .ok understood ∧
      understood.operations = [read] := by
  have ofPath := operationsOfPath_of_isPathItem (.map (declaration path verb fields)) false ⟨[], []⟩
    (isPathItem_declaration path verb fields)
  rw [declaredOperations_declaration] at ofPath
  have one : [(Scalar.string path, Value.map [(.string verb.name, .map fields)])].mapM
      (operationsOfPath (.map (declaration path verb fields)) false ⟨[], []⟩) = .ok [[read]] :=
    (mapM_eq_ok_iff _ _ _).2 (.cons
      (ofPath.trans ((mapM_eq_ok_iff _ _ _).2 (.cons made .nil))) .nil)
  have all : operations (declaration path verb fields) false = .ok [read] := by
    show ([(Scalar.string path, Value.map [(.string verb.name, .map fields)])].mapM
      (operationsOfPath (.map (declaration path verb fields)) false ⟨[], []⟩) >>=
        fun found => pure found.flatten) = _
    rw [one]
    rfl
  have older : (declaration path verb fields).get? "swagger" = none := rfl
  have openapi : (declaration path verb fields).get "openapi" = .string "3.0.0" := rfl
  have known : version (declaration path verb fields) = .ok "3.0.0" := by
    unfold version
    rw [older]
    dsimp only
    rw [openapi]
    rfl
  have newer : isSwagger "3.0.0" = false := by decide
  have reading : document (declaration path verb fields) "3.0.0" =
      .ok ⟨"3.0.0", info (declaration path verb fields), [], [], [read]⟩ := by
    unfold document
    rw [newer]
    show (operations (declaration path verb fields) false >>= fun operations =>
      .ok (Document.mk "3.0.0" (info (declaration path verb fields)) [] [] operations)) = _
    rw [all]
    rfl
  refine ⟨⟨"3.0.0", info (declaration path verb fields), [], [], [read]⟩, ?_, rfl⟩
  show (ofDocument (version (declaration path verb fields)) >>=
    document (declaration path verb fields)) = _
  rw [known]
  exact reading

/-- Let an operation of the older generation be read from a document over JSON values, and let it
consume some type of content. From its merged parameters and its responses it can be rendered, with
the references of its schemas moved or not. A document of the newer generation that declares the
rendition at the same path and verb, and is understood, has an operation that becomes the same
call; and there is such a document. -/
theorem result_callOf_rendition {entries : Entries} (json : Value.areAllJson entries = true)
    {ofPath : List Entries} {fields : Entries} {read : Operation}
    (source : IsReadFrom entries true ofPath fields read)
    (consumed : consumedTypes entries fields ≠ []) {change : Value → Value}
    (only : OnlyMoves change) (media : Scalar → String) :
    ∃ ofOperation parameters followed rendered call,
      dereferencedMaps (.map entries) (fields.get "parameters") = .ok ofOperation ∧
      mergedParameters ofPath ofOperation = .ok parameters ∧
      followedResponses (.map entries) (fields.get "responses") = .ok followed ∧
      (∀ further version understood, document further version = .ok understood →
        isSwagger version = false →
        Declares further read.path read.verb (rendition change media (consumedTypes entries fields)
          parameters followed fields) → rendered ∈ understood.operations) ∧
      (∃ understood, documentOf (declaration read.path read.verb (rendition change media
          (consumedTypes entries fields) parameters followed fields)) = .ok understood ∧
        understood.operations = [rendered]) ∧
      (Assembly.callOf read).result = .ok call ∧ (Assembly.callOf rendered).result = .ok call := by
  have root : (Value.map entries).isJson = true := json
  obtain ⟨fieldsJson, shared, plain⟩ := areAllJson_of_isReadFrom json source
  obtain ⟨ofOperation, parameters, followed, own, merging, responded, mergedJson, mergedPlain,
    comparable, answers, same⟩ :=
    exists_parts_of_operation root fieldsJson shared plain source.made
  have made := operation_rendition only media consumed mergedJson mergedPlain comparable answers
  have isJson := (ends_operation root true (mediaDefaults entries) read.path shared read.verb
    fieldsJson).of_ok source.made
  obtain ⟨call, succeeds⟩ := Assembly.succeeds_callOf isJson
  have equal := result_callOf_renderedOperation only media consumed mergedJson answers
    (listOr (mediaDefaults entries).produces (textsOf (fields.get "produces"))) read.path read.verb
    fields
  refine ⟨ofOperation, parameters, followed, _, call, own, merging, responded, ?_,
    documentOf_declaration (made _ _ _ _ _), succeeds, ?_⟩
  · intro further version understood reading newer declares
    exact (mem_operations_iff reading _).2 ⟨_, _, declares, newer ▸ made _ _ _ _ _⟩
  · refine equal.symm.trans (Eq.trans (congrArg (fun operation =>
      (Assembly.callOf operation).result) same.symm) succeeds)

/-- The map of an operation with two parameters in the body and a response whose schema is no
map. -/
def orderFields : Entries :=
  [(.string "operationId", .string "orders/create"),
    (.string "consumes", .list [.string "text/xml", .string "text/json", .string "text/xml"]),
    (.string "parameters", .list [
      .map [(.string "name", .string "order"), (.string "in", .string "body"),
        (.string "required", .bool true),
        (.string "schema", .map [(.string "$ref", .string "#/definitions/order")])],
      .map [(.string "name", .string "other"), (.string "in", .string "body")]]),
    (.string "responses", .map [
      (.string "200", .map [(.string "description", .string "All"), (.string "schema", .map [
        (.string "type", .string "array"),
        (.string "items", .map [(.string "$ref", .string "#/definitions/order")])])]),
      (.string "404", .map [(.string "schema", .bool true)])])]

/-- A parameter of the path of that operation. -/
def orderParameter : Entries :=
  [(.string "name", .string "limit"), (.string "in", .string "query"),
    (.string "type", .string "integer")]

/-- A document of the older generation with that operation. -/
def orderEntries : Entries :=
  [(.string "swagger", .string "2.0"),
    (.string "paths", .map [(.string "/orders", .map [
      (.string "parameters", .list [.map orderParameter]), (.string "post", .map orderFields)])])]

theorem result_callOf_rendition_orders :
    ∃ read parameters followed understood rendered call,
      Value.areAllJson orderEntries = true ∧
      IsReadFrom orderEntries true [orderParameter] orderFields read ∧
      consumedTypes orderEntries orderFields = ["text/xml", "text/json", "text/xml"] ∧
      OnlyMoves moved ∧
      documentOf (declaration "/orders" .post (rendition moved (fun _ => "text/plain")
        (consumedTypes orderEntries orderFields) parameters followed orderFields)) =
          .ok understood ∧
      understood.operations = [rendered] ∧
      (Assembly.callOf read).result = .ok call ∧ (Assembly.callOf rendered).result = .ok call ∧
      call.arguments.map Argument.name = ["limit"] ∧
      call.body = some ⟨"data", .named "Order", true, some "text/xml"⟩ ∧
      call.responseType = .array (.named "Order") := by
  obtain ⟨read, call, made, called, arguments, body, responseType⟩ :
      ∃ read call, operation (.map orderEntries) true (mediaDefaults orderEntries) "/orders"
          [orderParameter] .post orderFields = .ok read ∧
        (Assembly.callOf read).result = .ok call ∧
        call.arguments.map Argument.name = ["limit"] ∧
        call.body = some ⟨"data", .named "Order", true, some "text/xml"⟩ ∧
        call.responseType = .array (.named "Order") :=
    ⟨_, _, rfl, rfl, rfl, rfl, rfl⟩
  obtain ⟨path, verb⟩ := path_verb_of_operation _ _ _ made
  have source : IsReadFrom orderEntries true [orderParameter] orderFields read :=
    ⟨⟨_, _, _, rfl, List.mem_cons_self, ⟨⟨_, rfl, rfl⟩, rfl⟩, verb ▸ List.mem_cons_self, path⟩,
      by rw [path, verb]; exact made⟩
  have json : Value.areAllJson orderEntries = true := by decide
  have consumed : consumedTypes orderEntries orderFields = ["text/xml", "text/json", "text/xml"] :=
    rfl
  obtain ⟨_, parameters, followed, rendered, sameCall, _, _, _, _, ⟨understood, reading, one⟩,
      callOfRead, callOfRendered⟩ :=
    result_callOf_rendition json source (consumed ▸ List.cons_ne_nil _ _) onlyMoves_moved
      fun _ => "text/plain"
  obtain rfl := Except.ok.inj (called.symm.trans callOfRead)
  rw [path, verb] at reading
  exact ⟨read, parameters, followed, understood, rendered, call, json, source, consumed,
    onlyMoves_moved, reading, one, callOfRead, callOfRendered, arguments, body, responseType⟩

end Extraction

end ClientModel
