/-
This file defines a document that was understood: its metadata, its servers, its named schemas and
its operations. References other than those between schemas are followed already.
-/

import ClientModel.Schema.Node

namespace ClientModel

/-! ### Metadata -/

/-- What an interface is called. -/
structure Info where
  title : String
  version : String
  description : Option String
  deriving DecidableEq, Repr

/-- Where an interface is served. -/
structure Server where
  url : String
  description : Option String
  deriving DecidableEq, Repr

/-! ### Operations -/

/-- The verbs of operations, in the order in which a path lists them. -/
inductive Verb where
  | get
  | post
  | put
  | patch
  | delete
  | head
  | options
  | trace
  deriving DecidableEq, Repr

namespace Verb

/-- All verbs in order. -/
def all : List Verb := [.get, .post, .put, .patch, .delete, .head, .options, .trace]

/-- A verb as documents write it. -/
def name : Verb → String
  | .get => "get"
  | .post => "post"
  | .put => "put"
  | .patch => "patch"
  | .delete => "delete"
  | .head => "head"
  | .options => "options"
  | .trace => "trace"

/-- A verb in capitals. -/
def capitals : Verb → String
  | .get => "GET"
  | .post => "POST"
  | .put => "PUT"
  | .patch => "PATCH"
  | .delete => "DELETE"
  | .head => "HEAD"
  | .options => "OPTIONS"
  | .trace => "TRACE"

end Verb

/-- A parameter of an operation. The location is kept as the document writes it. -/
structure Parameter where
  name : String
  location : String
  required : Bool
  description : Option String
  schema : SchemaNode

/-- The body of a request. -/
structure RequestBody where
  required : Bool
  description : Option String
  contentTypes : List String
  schema : Option SchemaNode

/-- The response for one status. It has content if it declares a body, even one without a
schema. -/
structure Response where
  statusCode : String
  description : Option String
  contentTypes : List String
  hasContent : Bool
  schema : Option SchemaNode

/-- An operation: one verb of one path. -/
structure Operation where
  path : String
  verb : Verb
  operationId : Option String
  summary : Option String
  description : Option String
  tags : List String
  deprecated : Bool
  parameters : List Parameter
  requestBody : Option RequestBody
  responses : List (String × Response)

/-- The id of an operation, or its verb and path where it has none. -/
def Operation.effectiveId (operation : Operation) : String :=
  match operation.operationId with
  | some operationId =>
    if operationId.isEmpty then s!"{operation.verb.name}_{operation.path}" else operationId
  | none => s!"{operation.verb.name}_{operation.path}"

/-! ### Documents -/

/-- A document. The schemas keep the order in which they are declared. -/
structure Document where
  version : String
  info : Info
  servers : List Server
  schemas : List (String × SchemaNode)
  operations : List Operation

end ClientModel
