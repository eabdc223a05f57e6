/-
This file builds the calls of a client from the operations of a document and arranges them in the
tree of namespaces. A call that has the path and name of an earlier one takes its place, and a
note tells so.
-/

import ClientModel.Model.Basic
import ClientModel.Types.Resolution

namespace ClientModel.Assembly

/-! ### Documentation of operations -/

/-- The statuses of success, in the order in which they are considered. -/
def successStatuses : List String := ["200", "201", "204"]

/-- The first response for a status of success. -/
def successResponse? (operation : Operation) : Option Response :=
  successStatuses.findSome? fun status => Ordered.get? status operation.responses

/-- The summary and the description of an operation, one line each; one is enough where they are
the same. -/
def summaryLines (operation : Operation) : List String :=
  let lines := [operation.summary, operation.description].filterMap filledText?
  match lines with
  | [summary, description] => if summary == description then [summary] else lines
  | _ => lines

/-- The description of an operation: nothing where it has neither summary nor description. -/
def describeOperation (operation : Operation) : Option Description :=
  match summaryLines operation with
  | [] => none
  | lines =>
    let operationId := (filledText? operation.operationId).map ("Operation ID: " ++ ·)
    let returned := (successResponse? operation).bind fun response =>
      (filledText? response.description).map ("Returns: " ++ ·)
    some ⟨some ("\n".intercalate lines), operationId.toList ++ returned.toList⟩

/-! ### Arguments -/

/-- A parameter as an argument, given its accessor and its type. A part of the path is always
required. -/
def argumentOf (parameter : Parameter) (location : ArgumentLocation) (identifier : String)
    (type : TypeExpr) : Argument where
  name := parameter.name
  identifier
  location
  required := parameter.required || location == .path
  type
  description := parameter.description

/-- The note about a parameter that is no argument. The body is passed in another way. -/
def skipped (operationId : String) (parameter : Parameter) : List Notice :=
  if parameter.location == "body" then []
  else [.skippedParameter parameter.location parameter.name operationId]

/-- Leaves notes one after another. -/
def leaveAll : List Notice → Assembly Unit
  | [] => pure ()
  | notice :: rest => do
    leave notice
    leaveAll rest

/-- The arguments of a call: the parameters with a name that are sent in the path, the query or a
header. -/
def argumentsOf (operationId : String) : List Parameter → Assembly (List Argument)
  | [] => pure []
  | parameter :: rest =>
    if Text.isBlankText parameter.name then do
      leave (.unnamedParameter operationId)
      argumentsOf operationId rest
    else
      match ArgumentLocation.ofName? parameter.location with
      | none => do
        leaveAll (skipped operationId parameter)
        argumentsOf operationId rest
      | some location => do
        let identifier ← askProperty parameter.name
        let type ← resolve parameter.schema
        let others ← argumentsOf operationId rest
        pure (argumentOf parameter location identifier type :: others)

/-! ### Bodies and responses -/

/-- The name of the argument that carries the body. -/
def bodyName : String := "data"

/-- The argument for the body: the request body, else the first parameter that is one. -/
def bodyOf (operation : Operation) : Assembly (Option BodyArgument) :=
  match operation.requestBody with
  | some body => do
    let type ← resolveOptional body.schema
    pure (some ⟨bodyName, type, body.required, body.contentTypes.head?⟩)
  | none =>
    match operation.parameters.find? (·.location == "body") with
    | some parameter => do
      let type ← resolve parameter.schema
      pure (some ⟨bodyName, type, parameter.required, none⟩)
    | none => pure none

/-- The type of the response to a call: of the first status of success that the operation
declares. -/
def responseTypeOf (operation : Operation) : Assembly TypeExpr :=
  match successResponse? operation with
  | none => pure .unknown
  | some response =>
    if response.hasContent then resolveOptional response.schema else pure .noContent

/-! ### Calls -/

/-- The call of an operation. -/
def callOf (operation : Operation) : Assembly Call := do
  let operationId := operation.effectiveId
  let path ← askPath operationId
  let arguments ← argumentsOf operationId operation.parameters
  let body ← bodyOf operation
  let responseType ← responseTypeOf operation
  pure
    { verb := operation.verb
      urlTemplate := operation.path
      operationId
      methodName := path.methodName
      namespacePath := path.segments
      arguments
      body
      responseType
      description := describeOperation operation
      tags := operation.tags
      deprecated := operation.deprecated }

/-! ### The tree -/

/-- The note about a call that takes the place of an earlier one. -/
def replacement (root : Namespace) (call : Call) : List Notice :=
  match root.callAt? call.namespacePath call.methodName with
  | some earlier => [.operationReplaced call.endpoint earlier.endpoint call.qualifiedName]
  | none => []

/-- Puts the calls of operations into a tree, one after another. -/
def placeCalls (root : Namespace) : List Operation → Assembly Namespace
  | [] => pure root
  | operation :: rest => do
    let call ← callOf operation
    leaveAll (replacement root call)
    placeCalls (root.place call call.namespacePath) rest

/-- Whether an operation is wanted: all are where no ids are given. -/
def isWanted (operationIds : Option (List String)) (operation : Operation) : Bool :=
  match operationIds with
  | none => true
  | some wanted => wanted.contains operation.effectiveId

/-- The tree of the wanted operations. -/
def namespaceRoot (document : Document) (operationIds : Option (List String)) :
    Assembly Namespace :=
  placeCalls (Namespace.empty "") (document.operations.filter (isWanted operationIds))

end ClientModel.Assembly
