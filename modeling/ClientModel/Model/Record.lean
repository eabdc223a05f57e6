/-
This file writes models as records. The record of a model is what the generator hands on to
whatever renders a client.
-/

import ClientModel.Document.Record
import ClientModel.Model.Basic
import ClientModel.Types.Record

namespace ClientModel

/-- The record of an argument. -/
def Argument.record (argument : Argument) : Value :=
  .record [
    ("name", .string argument.name),
    ("identifier", .string argument.identifier),
    ("location", .string argument.location.name),
    ("required", .bool argument.required),
    ("type", argument.type.record),
    ("description", .ofText? argument.description)]

/-- The record of the argument that carries the body. -/
def BodyArgument.record (body : BodyArgument) : Value :=
  .record [
    ("name", .string body.name),
    ("type", body.type.record),
    ("required", .bool body.required),
    ("content_type", .ofText? body.contentType)]

/-- The record of a call. -/
def Call.record (call : Call) : Value :=
  .record [
    ("http_method", .string call.verb.name),
    ("url_template", .string call.urlTemplate),
    ("operation_id", .string call.operationId),
    ("method_name", .string call.methodName),
    ("namespace_path", .ofTexts call.namespacePath),
    ("parameters", .list (call.arguments.map Argument.record)),
    ("request_body", (call.body.map BodyArgument.record).getD .null),
    ("response_type", call.responseType.record),
    ("description", Description.recordOf? call.description),
    ("tags", .ofTexts call.tags),
    ("deprecated", .bool call.deprecated)]

namespace Namespace

mutual

/-- The record of a namespace. -/
def record : Namespace → Value
  | .node name children calls =>
    .record [
      ("name", .string name),
      ("children", .record (recordsOfChildren children)),
      ("operations", .list (calls.map Call.record))]

/-- The records of the namespaces in a namespace. -/
def recordsOfChildren : List (String × Namespace) → List (String × Value)
  | [] => []
  | (name, child) :: rest => (name, child.record) :: recordsOfChildren rest

end

end Namespace

/-- The record of a declaration. -/
def Declaration.record (declaration : Declaration) : Value :=
  .record [
    ("name", .string declaration.name),
    ("identifier", .string declaration.identifier),
    ("type", declaration.type.record),
    ("description", Description.recordOf? declaration.description),
    ("extends", .ofTexts declaration.supertypes)]

/-- The record of a model. -/
def Model.record (model : Model) : Value :=
  .record [
    ("info", model.info.record),
    ("type_declarations", .list (model.declarations.map Declaration.record)),
    ("namespace_root", model.root.record)]

end ClientModel
