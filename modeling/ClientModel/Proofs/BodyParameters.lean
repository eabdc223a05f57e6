/-
This file compares two ways to pass a body that a document writes among the parameters. It may be
left there, where the call looks for it, or it may be taken out first, as a request body. Either
way the first such parameter is the body and none of them is an argument, whatever their names and
wherever they stand. The main statement is that both ways lead to the same call, which only in the
second one knows a type of content.
-/

import ClientModel.Proofs.Arguments

namespace ClientModel

/-! ### Two ways to pass a body -/

namespace Operation

/-- An operation whose parameters are all left in place, and that has no request body. -/
def withBodyInPlace (operation : Operation) (parameters : List Parameter) : Operation :=
  { operation with parameters, requestBody := none }

/-- An operation whose request body is taken out of its parameters. -/
def withBodyTakenOut (operation : Operation) (parameters : List Parameter)
    (consumes : List String) : Operation :=
  { operation with
    parameters := (Extraction.splitBody parameters consumes).1
    requestBody := (Extraction.splitBody parameters consumes).2 }

end Operation

/-- The same body, sent as a type of content. -/
def BodyArgument.sentAs (contentType : Option String) (body : BodyArgument) : BodyArgument :=
  { body with contentType }

/-- The same call, whose body is sent as a type of content. -/
def Call.sentAs (contentType : Option String) (call : Call) : Call :=
  { call with body := call.body.map (·.sentAs contentType) }

/-- A body passes a parameter, and does not know a type of content. -/
structure Parameter.IsBody (parameter : Parameter) (body : BodyArgument) : Prop where
  name : body.name = Assembly.bodyName
  type : (resolve parameter.schema).result = .ok body.type
  required : body.required = parameter.required
  contentType : body.contentType = none

namespace Assembly

variable (operation : Operation) (parameters : List Parameter) (consumes : List String)

/-! ### Bodies -/

/-- Left in place, the first parameter that is a body is the body. -/
theorem result_bodyOf_withBodyInPlace_iff (body : Option BodyArgument) :
    (bodyOf (operation.withBodyInPlace parameters)).result = .ok body ↔
      Option.Rel Parameter.IsBody (parameters.find? (·.location == "body")) body := by
  unfold bodyOf Operation.withBodyInPlace
  dsimp only
  cases parameters.find? (·.location == "body") with
  | none =>
    constructor
    · intro made
      obtain rfl := Except.ok.inj made
      exact .none
    · rintro ⟨⟩
      rfl
  | some parameter =>
    rw [result_bind_eq_ok_iff]
    constructor
    · rintro ⟨type, resolved, made⟩
      obtain rfl := Except.ok.inj made
      exact .some ⟨rfl, resolved, rfl, rfl⟩
    · rintro (⟨⟨name, resolved, required, contentType⟩⟩ | _)
      refine ⟨_, resolved, ?_⟩
      rw [← name, ← required, ← contentType]
      rfl

/-- Taken out, the body is the same, sent as the first type of content. -/
theorem result_bodyOf_withBodyTakenOut :
    (bodyOf (operation.withBodyTakenOut parameters consumes)).result =
      (bodyOf (operation.withBodyInPlace parameters)).result.map
        (Option.map (·.sentAs consumes.head?)) := by
  unfold bodyOf Operation.withBodyInPlace Operation.withBodyTakenOut Extraction.splitBody
  dsimp only
  cases parameters.find? (·.location == "body") with
  | none =>
    have missing : (parameters.filter (·.location != "body")).find? (·.location == "body") = none :=
      List.find?_eq_none.2 fun parameter member => by simpa using (List.mem_filter.1 member).2
    rw [Option.map_none, missing]
    rfl
  | some parameter =>
    rw [Option.map_some]
    show (resolve parameter.schema >>= _).result = (resolve parameter.schema >>= _).result.map _
    rw [result_bind, result_bind]
    cases (resolve parameter.schema).result <;> rfl

/-! ### Calls -/

variable {parameters} (json : ∀ parameter ∈ parameters, parameter.schema.isJson = true)

include json

/-- Bodies among the parameters are no arguments, whether they are taken out or not. -/
theorem result_argumentsOf_filter_body (operationId : String) :
    (argumentsOf operationId (parameters.filter (·.location != "body"))).result =
      (argumentsOf operationId parameters).result := by
  obtain ⟨arguments, made⟩ := succeeds_argumentsOf operationId json
  rw [made, result_argumentsOf_iff, Parameter.filter_isPassed_filter_body,
    ← result_argumentsOf_iff operationId, made]

theorem succeeds_bodyOf_withBodyInPlace :
    (bodyOf (operation.withBodyInPlace parameters)).Succeeds := by
  unfold bodyOf Operation.withBodyInPlace
  dsimp only
  split
  · next parameter found =>
    have here := json parameter (List.mem_of_find?_eq_some found)
    exact (succeeds_resolve here).bind fun _ => .pure _
  · exact .pure _

/-- Let the schemas of parameters be over JSON values. An operation that has its body among them
becomes the same call whether the body is left in place or taken out, up to the type of content,
and becomes one unless its response fails. The arguments correspond to the parameters that are
passed; the first parameter that is a body, if there is one, is the body; and a body that is left
in place has no type of content. -/
theorem result_callOf_withBodyTakenOut :
    (callOf (operation.withBodyTakenOut parameters consumes)).result =
        (callOf (operation.withBodyInPlace parameters)).result.map
          (Call.sentAs consumes.head?) ∧
      ((callOf (operation.withBodyInPlace parameters)).Succeeds ↔
        (responseTypeOf operation).Succeeds) ∧
      ∀ call, (callOf (operation.withBodyInPlace parameters)).result = .ok call →
        List.Forall₂ Parameter.IsPassedAs (parameters.filter Parameter.isPassed) call.arguments ∧
        Option.Rel Parameter.IsBody (parameters.find? (·.location == "body")) call.body := by
  obtain ⟨arguments, passed⟩ := succeeds_argumentsOf operation.effectiveId json
  obtain ⟨body, taken⟩ := succeeds_bodyOf_withBodyInPlace operation json
  have inPlace : (callOf (operation.withBodyInPlace parameters)).result =
      (responseTypeOf operation).result.map (called operation arguments body) := by
    rw [result_callOf, taken]
    show (argumentsOf operation.effectiveId parameters).result >>= _ = _
    rw [passed]
    rfl
  have takenOut : (callOf (operation.withBodyTakenOut parameters consumes)).result =
      (responseTypeOf operation).result.map
        (called operation arguments (body.map (·.sentAs consumes.head?))) := by
    rw [result_callOf, result_bodyOf_withBodyTakenOut, taken]
    show (argumentsOf operation.effectiveId (parameters.filter (·.location != "body"))).result >>=
      _ = _
    rw [result_argumentsOf_filter_body json, passed]
    rfl
  refine ⟨?_, ?_, fun call made => ?_⟩
  · rw [inPlace, takenOut]
    cases (responseTypeOf operation).result <;> rfl
  · unfold Succeeds
    rw [inPlace]
    cases (responseTypeOf operation).result <;> simp [Except.map]
  · obtain ⟨_, _, _, passed, taken, _, rfl⟩ := (result_callOf_eq_ok_iff _ call).1 made
    exact ⟨(result_argumentsOf_iff _ _ _).1 passed,
      (result_bodyOf_withBodyInPlace_iff operation parameters _).1 taken⟩

omit json

/-- Parameters with two bodies: the first one has no name, and the second one comes last. -/
def mixedParameters : List Parameter :=
  [("limit", "query"), ("", "body"), (" ", "header"), ("session", "cookie"), ("id", "path"),
    ("pet", "body")].map fun entry =>
      { name := entry.1, location := entry.2, required := entry.2 == "body", description := none
        schema := .primitive {} (if entry.1 == "pet" then "integer" else "string") }

/-- An operation without parameters of its own. -/
def plainOperation : Operation where
  path := "/pets/{id}"
  verb := .put
  operationId := some "pets/replace"
  summary := none
  description := none
  tags := []
  deprecated := false
  parameters := []
  requestBody := none
  responses := [("204", ⟨"204", none, [], false, none⟩)]

theorem result_callOf_withBodyTakenOut_mixedParameters :
    (∀ parameter ∈ mixedParameters, parameter.schema.isJson = true) ∧
      ∃ call body, (callOf (plainOperation.withBodyInPlace mixedParameters)).result = .ok call ∧
        (callOf (plainOperation.withBodyTakenOut mixedParameters
          ["application/json", "application/xml"])).result =
            .ok (call.sentAs (some "application/json")) ∧
        call.arguments.map Argument.name = ["limit", "id"] ∧ call.body = some body ∧
        body.type = .primitive .string ∧ body.required = true ∧ body.contentType = none := by
  have json : ∀ parameter ∈ mixedParameters, parameter.schema.isJson = true := by decide
  obtain ⟨same, _, _⟩ := result_callOf_withBodyTakenOut plainOperation
    ["application/json", "application/xml"] json
  have made : (callOf (plainOperation.withBodyInPlace mixedParameters)).result =
      .ok (called plainOperation
        [argumentOf (mixedParameters.head (by decide)) .query "limit" (.primitive .string),
          argumentOf (mixedParameters[4]) .path "id" (.primitive .string)]
        (some ⟨bodyName, .primitive .string, true, none⟩) .noContent) := by rfl
  rw [made] at same
  exact ⟨json, _, _, made, same, rfl, rfl, rfl, rfl, rfl⟩

end Assembly

end ClientModel
