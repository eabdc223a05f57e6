/-
This file defines the model of a client: the declared types, and the calls arranged in a tree of
namespaces.
-/

import ClientModel.Document.Basic
import ClientModel.Notice
import ClientModel.Types.Expression

namespace ClientModel

/-! ### Calls -/

/-- Where an argument of a call is sent. -/
inductive ArgumentLocation where
  | path
  | query
  | header
  deriving DecidableEq, Repr

namespace ArgumentLocation

/-- A location as documents write it. -/
def name : ArgumentLocation → String
  | .path => "path"
  | .query => "query"
  | .header => "header"

/-- All locations. -/
def all : List ArgumentLocation := [.path, .query, .header]

/-- The location of a name. -/
def ofName? (name : String) : Option ArgumentLocation := all.find? (·.name == name)

end ArgumentLocation

/-- An argument of a call. -/
structure Argument where
  name : String
  identifier : String
  location : ArgumentLocation
  required : Bool
  type : TypeExpr
  description : Option String

/-- The argument that carries the body of a request. -/
structure BodyArgument where
  name : String
  type : TypeExpr
  required : Bool
  contentType : Option String

/-- A call of the client: one operation of the document. -/
structure Call where
  verb : Verb
  urlTemplate : String
  operationId : String
  methodName : String
  namespacePath : List String
  arguments : List Argument
  body : Option BodyArgument
  responseType : TypeExpr
  description : Option Description
  tags : List String
  deprecated : Bool

namespace Call

/-- The namespaces and the method of a call, joined by dots. -/
def qualifiedName (call : Call) : String :=
  ".".intercalate (call.namespacePath ++ [call.methodName])

/-- The operation of a call as notes name it. -/
def endpoint (call : Call) : Endpoint :=
  ⟨call.verb.capitals, call.urlTemplate⟩

/-- The declared types that a call mentions: in its arguments, in its body, in its response. -/
def references (call : Call) : List String :=
  call.arguments.flatMap (·.type.references) ++
    (call.body.map fun body => body.type.references).getD [] ++ call.responseType.references

end Call

/-! ### Namespaces -/

/-- A namespace: the namespaces in it and the calls in it, each in the order of their first
appearance. The outermost one has no name. -/
inductive Namespace where
  | node (name : String) (children : List (String × Namespace)) (calls : List Call)

namespace Namespace

/-- A namespace with nothing in it. -/
def empty (name : String) : Namespace := .node name [] []

/-- The name of a namespace. -/
def name : Namespace → String
  | .node name _ _ => name

/-- The namespaces in a namespace. -/
def children : Namespace → List (String × Namespace)
  | .node _ children _ => children

/-- The calls in a namespace itself. -/
def calls : Namespace → List Call
  | .node _ _ calls => calls

/-- A call among others: in place of the one with the same method name, else at the end. -/
def placeCall (call : Call) : List Call → List Call
  | [] => [call]
  | other :: rest =>
    if other.methodName == call.methodName then call :: rest else other :: placeCall call rest

/-- Puts a call at the end of a path, through namespaces that are made where they are missing. -/
def place (call : Call) : List String → Namespace → Namespace
  | [], .node name children calls => .node name children (placeCall call calls)
  | segment :: rest, .node name children calls =>
    let child := (Ordered.get? segment children).getD (empty segment)
    .node name (Ordered.put segment (place call rest child) children) calls

/-- The namespace at the end of a path. -/
def at? : List String → Namespace → Option Namespace
  | [], here => some here
  | segment :: rest, .node _ children _ => (Ordered.get? segment children).bind (at? rest)

/-- The call with a method name in the namespace at the end of a path. -/
def callAt? (path : List String) (methodName : String) (root : Namespace) : Option Call :=
  (at? path root).bind fun here => here.calls.find? (·.methodName == methodName)

mutual

/-- Every call in a namespace: its own, then those of the namespaces in it. -/
def walk : Namespace → List Call
  | .node _ children calls => calls ++ walkChildren children

/-- Every call in a list of namespaces. -/
def walkChildren : List (String × Namespace) → List Call
  | [] => []
  | (_, child) :: rest => walk child ++ walkChildren rest

end

/-- The declared types that the calls of a namespace mention. -/
def references (root : Namespace) : List String := root.walk.flatMap Call.references

end Namespace

/-! ### Models -/

/-- A declared type. The types it extends are named where it is nothing but an intersection of
them. -/
structure Declaration where
  name : String
  identifier : String
  type : TypeExpr
  description : Option Description
  supertypes : List String

/-- The model of a client. -/
structure Model where
  info : Info
  declarations : List Declaration
  root : Namespace

/-- The declaration of an identifier. -/
def Model.declaration? (model : Model) (identifier : String) : Option Declaration :=
  model.declarations.find? (·.identifier == identifier)

end ClientModel
