/-
This file understands a decoded document: it reads the metadata, the servers, the schemas and
every operation out of it. Parameters, request bodies and responses may be references, which are
followed; schemas are read as they stand. The two generations of the format differ in where they
keep schemas, request bodies and the schemas of responses.
-/

import ClientModel.Document.Basic
import ClientModel.Document.Pointer
import ClientModel.Schema.Opening
import ClientModel.Text.Utf8
import ClientModel.Validation

namespace ClientModel

/-! ### What can go wrong -/

/-- Why a document cannot be understood. Beside the faults that are reported as such, a parameter
whose name or place is a collection cannot be compared with others, a server can only be described
by a text, perhaps one in bytes, and no schema is a part of itself. -/
inductive ExtractionError where
  | malformed (cause : DocumentError)
  | incomparable (kind : String)
  | serverDescription (fault : Fault)
  | endlessSchema
  deriving Repr

/-- The text for a value that cannot be compared. -/
def incomparableMessage (kind : String) : String := s!"unhashable type: '{kind}'"

/-- A result whose fault is one of the document. -/
def ofDocument {Product : Type} (outcome : Except DocumentError Product) :
    Except ExtractionError Product :=
  outcome.mapError .malformed

namespace Extraction

/-! ### Versions -/

/-- The version of a document: exactly 2.0 in the older field, anything from 3. on in the newer
one. The older field decides where both are present. -/
def version (entries : Entries) : Except DocumentError String :=
  match entries.get? "swagger" with
  | some value =>
    if value.text == "2.0" then .ok value.text else .error (.unsupportedSwagger value.text)
  | none =>
    let value := entries.get "openapi"
    if value.isNull then .error .missingVersion
    else if ['3', '.'].isPrefixOf value.text.toList then .ok value.text
    else .error (.unsupportedOpenApi value.text)

/-- Whether a version is one of the older generation. -/
def isSwagger (version : String) : Bool := ['2', '.'].isPrefixOf version.toList

/-! ### Fields -/

/-- The text of a field that counts as something, else a fallback. -/
def textOr (fallback : String) (value : Value) : String :=
  if value.isFilled then value.text else fallback

/-- The texts of a list, none for anything else. -/
def textsOf (value : Value) : List String := value.itemsOrEmpty.map Value.text

/-- The metadata. -/
def info (entries : Entries) : Info :=
  let fields := (entries.get "info").entriesOrEmpty
  { title := textOr "Untitled API" (fields.get "title")
    version := textOr "0.0.0" (fields.get "version")
    description := (fields.get "description").string? }

/-! ### Servers -/

/-- One server. -/
def server (fields : Entries) : Except ExtractionError Server :=
  let url := ((fields.get? "url").getD (.string "/")).text
  match fields.get "description" with
  | .null => .ok ⟨url, none⟩
  | .string description => .ok ⟨url, some description⟩
  | .scalar (.binary bytes) =>
    match Text.readUtf8 ⟨bytes.toArray⟩ with
    | .ok description => .ok ⟨url, some description⟩
    | .error _ => .error (.serverDescription .encodedText)
  | _ => .error (.serverDescription .text)

/-- The servers of the newer generation: every map in the list. -/
def servers (entries : Entries) : Except ExtractionError (List Server) :=
  ((entries.get "servers").itemsOrEmpty.filterMap Value.entries?).mapM server

/-- The servers of the older generation: one address for each scheme. -/
def swaggerServers (entries : Entries) : List Server :=
  let host := entries.get "host"
  let basePath := textOr "" (entries.get "basePath")
  if host.isFilled then
    let schemes := textsOf (entries.get "schemes")
    (if schemes.isEmpty then ["https"] else schemes).map fun scheme =>
      ⟨s!"{scheme}://{host.text}{basePath}", none⟩
  else if basePath.isEmpty then []
  else [⟨basePath, none⟩]

/-! ### Schemas -/

/-- The schema that a value writes. -/
def schemaOf (value : Value) : Except ExtractionError SchemaNode :=
  match readSchema? value with
  | some schema => .ok schema
  | none => .error .endlessSchema

/-- The schema of a value that is a map. -/
def schemaOf? (value : Value) : Except ExtractionError (Option SchemaNode) :=
  if value.entries?.isSome then (schemaOf value).map some else .ok none

/-- The named schemas. -/
def schemas (entries : Entries) (swagger : Bool) :
    Except ExtractionError (List (String × SchemaNode)) := do
  let declared :=
    if swagger then entries.get "definitions"
    else (entries.get "components").entriesOrEmpty.get "schemas"
  let named ← declared.entriesOrEmpty.mapM fun entry => do
    pure (entry.1.text, ← schemaOf entry.2)
  pure (Ordered.ofList named)

/-! ### References -/

/-- Follows a reference. -/
def dereferenced (root value : Value) : Except ExtractionError Value :=
  ofDocument (Pointer.dereference root value)

/-- The maps of a list, each after following references. -/
def dereferencedMaps (root value : Value) : Except ExtractionError (List Entries) := do
  let items ← value.itemsOrEmpty.mapM (dereferenced root)
  pure (items.filterMap Value.entries?)

/-! ### Parameters -/

/-- The first part of a value that cannot be compared with others. -/
def incomparable? : Value → Option String
  | .scalar _ => none
  | .pair first second =>
    match incomparable? first with
    | some kind => some kind
    | none => incomparable? second
  | other => some other.kindName

/-- Whether two values that can be compared are the same. -/
def sameValue : Value → Value → Bool
  | .scalar left, .scalar right => left.sameKey right
  | .pair left right, .pair left' right' => sameValue left left' && sameValue right right'
  | _, _ => false

/-- What tells parameters apart: their name and place, as the document writes them. -/
def parameterKey (parameter : Entries) : Except ExtractionError (Value × Value) :=
  let name := (parameter.get? "name").getD (.string "")
  let place := (parameter.get? "in").getD (.string "")
  match incomparable? name, incomparable? place with
  | some kind, _ => .error (.incomparable kind)
  | none, some kind => .error (.incomparable kind)
  | none, none => .ok (name, place)

/-- Whether two keys are the same. -/
def sameParameterKey (left right : Value × Value) : Bool :=
  sameValue left.1 right.1 && sameValue left.2 right.2

/-- The parameters of an operation: those of its path that it does not override, then its own. -/
def mergedParameters (ofPath ofOperation : List Entries) :
    Except ExtractionError (List Entries) := do
  let overriding ← ofOperation.mapM parameterKey
  let keyed ← ofPath.mapM fun parameter => do
    let key ← parameterKey parameter
    pure (key, parameter)
  let kept := keyed.filter fun entry => !overriding.any (sameParameterKey entry.1)
  pure (kept.map Prod.snd ++ ofOperation)

/-- The keywords of a parameter that describe its value in place. -/
def inlineKeywords : List String :=
  ["type", "format", "items", "enum", "default", "minimum", "maximum", "minLength", "maxLength",
    "pattern", "minItems", "maxItems"]

/-- The schema that a parameter's own keywords make, where a type is among them. -/
def inlineSchema (parameter : Entries) : Value :=
  if parameter.has "type" then
    .map (inlineKeywords.filterMap fun keyword =>
      (parameter.get? keyword).map fun item => (.string keyword, item))
  else .map [(.string "type", .string "string")]

/-- The value that describes a parameter: its schema, else, unless it is a body, its own
keywords. -/
def parameterSchema (parameter : Entries) (location : String) : Value :=
  let schema := parameter.get "schema"
  if schema.entries?.isSome || location == "body" then schema else inlineSchema parameter

/-- One parameter. -/
def parameter (fields : Entries) : Except ExtractionError Parameter := do
  let location := ((fields.get? "in").getD (.string "query")).text
  let schema ← schemaOf (parameterSchema fields location)
  pure
    { name := ((fields.get? "name").getD (.string "")).text
      location
      required := (fields.get "required").isTrue
      description := (fields.get "description").string?
      schema }

/-! ### Bodies -/

/-- The schema of the first media type of a content map, and of no other. -/
def firstSchema (content : Entries) : Except ExtractionError (Option SchemaNode) :=
  match content with
  | (_, media) :: _ => schemaOf? (media.entriesOrEmpty.get "schema")
  | [] => .ok none

/-- The texts of the keys of a map. -/
def keyTexts (entries : Entries) : List String := entries.map fun entry => entry.1.text

/-- The request body of the newer generation. -/
def requestBody (root value : Value) : Except ExtractionError (Option RequestBody) := do
  let body ← dereferenced root value
  match body.entries? with
  | some fields =>
    let content := (fields.get "content").entriesOrEmpty
    let schema ← firstSchema content
    pure (some
      { required := (fields.get "required").isTrue
        description := (fields.get "description").string?
        contentTypes := keyTexts content
        schema })
  | none => pure none

/-- The body that a parameter describes. -/
def bodyOfParameter (consumes : List String) (parameter : Parameter) : RequestBody where
  required := parameter.required
  description := parameter.description
  contentTypes := consumes
  schema := some parameter.schema

/-- Takes the body out of the parameters of the older generation. Only the first one counts. -/
def splitBody (parameters : List Parameter) (consumes : List String) :
    List Parameter × Option RequestBody :=
  (parameters.filter (·.location != "body"),
    (parameters.find? (·.location == "body")).map (bodyOfParameter consumes))

/-! ### Responses -/

/-- A response of the newer generation. -/
def response (status : String) (fields : Entries) : Except ExtractionError Response := do
  let content := (fields.get "content").entries?
  let schema ← firstSchema (content.getD [])
  pure
    { statusCode := status
      description := (fields.get "description").string?
      contentTypes := keyTexts (content.getD [])
      hasContent := content.isSome
      schema }

/-- A response of the older generation. -/
def swaggerResponse (produces : List String) (status : String) (fields : Entries) :
    Except ExtractionError Response := do
  let schema ← schemaOf? (fields.get "schema")
  pure
    { statusCode := status
      description := (fields.get "description").string?
      contentTypes := if schema.isSome then produces else []
      hasContent := schema.isSome
      schema }

/-- The responses of an operation under the texts of their statuses. -/
def responses (read : String → Entries → Except ExtractionError Response) (root value : Value) :
    Except ExtractionError (List (String × Response)) := do
  let found ← value.entriesOrEmpty.mapM fun entry => do
    let response ← dereferenced root entry.2
    match response.entries? with
    | some fields => pure (some (entry.1.text, ← read entry.1.text fields))
    | none => pure none
  pure (Ordered.ofList (found.filterMap id))

/-! ### Operations -/

/-- The types of content that a document declares for all its operations. -/
structure MediaDefaults where
  consumes : List String
  produces : List String

/-- A list, or the default where it is empty. -/
def listOr (fallback own : List String) : List String :=
  if own.isEmpty then fallback else own

/-- The parameters and the request body of an operation. -/
def parametersAndBody (root : Value) (swagger : Bool) (defaults : MediaDefaults)
    (ofPath : List Entries) (fields : Entries) :
    Except ExtractionError (List Parameter × Option RequestBody) := do
  let ofOperation ← dereferencedMaps root (fields.get "parameters")
  let merged ← mergedParameters ofPath ofOperation
  let parameters ← merged.mapM parameter
  if swagger then
    pure (splitBody parameters (listOr defaults.consumes (textsOf (fields.get "consumes"))))
  else do
    let body ← requestBody root (fields.get "requestBody")
    pure (parameters, body)

/-- How the responses of an operation are read. -/
def responseReader (swagger : Bool) (defaults : MediaDefaults) (fields : Entries) :
    String → Entries → Except ExtractionError Response :=
  if swagger then swaggerResponse (listOr defaults.produces (textsOf (fields.get "produces")))
  else response

/-- One operation. -/
def operation (root : Value) (swagger : Bool) (defaults : MediaDefaults) (path : String)
    (ofPath : List Entries) (verb : Verb) (fields : Entries) :
    Except ExtractionError Operation := do
  let (parameters, requestBody) ← parametersAndBody root swagger defaults ofPath fields
  let responses ← responses (responseReader swagger defaults fields) root (fields.get "responses")
  let operationId := fields.get "operationId"
  pure
    { path
      verb
      operationId := if operationId.isFilled then some operationId.text else none
      summary := (fields.get "summary").string?
      description := (fields.get "description").string?
      tags := textsOf (fields.get "tags")
      deprecated := (fields.get "deprecated").isTrue
      parameters
      requestBody
      responses }

/-- The operations of one path, verb by verb. -/
def operationsOfPath (root : Value) (swagger : Bool) (defaults : MediaDefaults)
    (entry : Scalar × Value) : Except ExtractionError (List Operation) := do
  let item ← dereferenced root entry.2
  match item.entries? with
  | some fields =>
    let ofPath ← dereferencedMaps root (fields.get "parameters")
    let declared := Verb.all.filterMap fun verb => (fields.get verb.name).entries?.map (verb, ·)
    declared.mapM fun found =>
      operation root swagger defaults entry.1.text ofPath found.1 found.2
  | none => pure []

/-- All operations, path by path. -/
def operations (entries : Entries) (swagger : Bool) :
    Except ExtractionError (List Operation) := do
  let defaults : MediaDefaults :=
    ⟨textsOf (entries.get "consumes"), textsOf (entries.get "produces")⟩
  let paths := entries.get "paths"
  if paths.isNull then pure []
  else
    match paths.entries? with
    | some items =>
      let found ← items.mapM (operationsOfPath (.map entries) swagger defaults)
      pure found.flatten
    | none => throw (.malformed .pathsNotMap)

/-! ### Documents -/

/-- The document of a known version. -/
def document (entries : Entries) (version : String) : Except ExtractionError Document := do
  let swagger := isSwagger version
  let servers ← if swagger then pure (swaggerServers entries) else servers entries
  let schemas ← schemas entries swagger
  let operations ← operations entries swagger
  pure { version, info := info entries, servers, schemas, operations }

/-- The document that a decoded map is: its version is checked first. -/
def documentOf (entries : Entries) : Except ExtractionError Document := do
  let version ← ofDocument (version entries)
  document entries version

end Extraction

end ClientModel
