/-
This file writes documents as records.
-/

import ClientModel.Document.Basic
import ClientModel.Schema.Record

namespace ClientModel

/-- The record of metadata. -/
def Info.record (info : Info) : Value :=
  .record [
    ("title", .string info.title),
    ("version", .string info.version),
    ("description", .ofText? info.description)]

/-- The record of a server. -/
def Server.record (server : Server) : Value :=
  .record [("url", .string server.url), ("description", .ofText? server.description)]

/-- The record of a parameter. -/
def Parameter.record (parameter : Parameter) : Value :=
  .record [
    ("name", .string parameter.name),
    ("location", .string parameter.location),
    ("required", .bool parameter.required),
    ("description", .ofText? parameter.description),
    ("schema", parameter.schema.record)]

/-- The record of the body of a request. -/
def RequestBody.record (body : RequestBody) : Value :=
  .record [
    ("required", .bool body.required),
    ("description", .ofText? body.description),
    ("content_types", .ofTexts body.contentTypes),
    ("schema", SchemaNode.recordOf? body.schema)]

/-- The record of a response. -/
def Response.record (response : Response) : Value :=
  .record [
    ("status_code", .string response.statusCode),
    ("description", .ofText? response.description),
    ("content_types", .ofTexts response.contentTypes),
    ("has_content", .bool response.hasContent),
    ("schema", SchemaNode.recordOf? response.schema)]

/-- The record of an operation. -/
def Operation.record (operation : Operation) : Value :=
  .record [
    ("path", .string operation.path),
    ("method", .string operation.verb.name),
    ("operation_id", .ofText? operation.operationId),
    ("summary", .ofText? operation.summary),
    ("description", .ofText? operation.description),
    ("tags", .ofTexts operation.tags),
    ("deprecated", .bool operation.deprecated),
    ("parameters", .list (operation.parameters.map Parameter.record)),
    ("request_body", (operation.requestBody.map RequestBody.record).getD .null),
    ("responses", .record (operation.responses.map fun entry => (entry.1, entry.2.record)))]

/-- The record of a document. -/
def Document.record (document : Document) : Value :=
  .record [
    ("document_version", .string document.version),
    ("info", document.info.record),
    ("servers", .list (document.servers.map Server.record)),
    ("schemas", .record (document.schemas.map fun entry => (entry.1, entry.2.record))),
    ("operations", .list (document.operations.map Operation.record))]

end ClientModel
