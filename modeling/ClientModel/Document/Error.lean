/-
This file lists what can be wrong with a document and how each is reported.
-/

import ClientModel.Value.Basic

namespace ClientModel

/-- Why a document cannot be used. -/
inductive DocumentError where
  /-- A reference leads out of the document. -/
  | externalReference (pointer : String)
  /-- A pointer names a key that is not there. -/
  | missingKey (pointer key : String)
  /-- A pointer names a place that a list does not have. -/
  | invalidIndex (pointer index : String)
  /-- A pointer goes on at a value without parts. -/
  | notNavigable (pointer kind : String)
  /-- References lead back to one another, or on for too long. -/
  | circular (chain : List String)
  /-- The paths are not a map. -/
  | pathsNotMap
  /-- The document as a whole is not a map. -/
  | notMap (value : Value)
  /-- The text is not JSON and was said to be. -/
  | invalidJson (detail : String)
  /-- The text can be read in no format; the complaint of each format that was tried. -/
  | undecodable (complaints : List String)
  /-- No field gives a version. -/
  | missingVersion
  /-- The version of the older format is not the one supported. -/
  | unsupportedSwagger (version : String)
  /-- The version of the newer format is not one of those supported. -/
  | unsupportedOpenApi (version : String)
  /-- Standard input holds nothing but blanks. -/
  | noInput
  /-- There is no such file. -/
  | notFound (path : String)
  /-- A file is not text. -/
  | unreadable (path reason : String)
  /-- A file holds nothing but blanks. -/
  | emptyFile (path : String)
  deriving Repr

namespace DocumentError

/-- What a document is called that should be a map. -/
def gotName (value : Value) : String :=
  if value.isNull then "empty document" else value.kindName

/-- The text of an error. -/
def message : DocumentError → String
  | .externalReference pointer =>
    s!"External $ref not supported: {pointer}. Only internal references (#/...) are handled."
  | .missingKey pointer key => s!"Cannot resolve $ref '{pointer}': key '{key}' not found"
  | .invalidIndex pointer index =>
    s!"Cannot resolve $ref '{pointer}': invalid array index '{index}'"
  | .notNavigable pointer kind =>
    s!"Cannot resolve $ref '{pointer}': cannot navigate into {kind}"
  | .circular chain => "Circular $ref chain: " ++ " -> ".intercalate chain
  | .pathsNotMap => "'paths' must be a mapping"
  | .notMap value => s!"Document must be a JSON/YAML object (got {gotName value})"
  | .invalidJson detail => s!"Invalid JSON: {detail}"
  | .undecodable complaints =>
    "Failed to parse document as JSON or YAML\n  " ++ "\n  ".intercalate complaints
  | .missingVersion =>
    "Missing 'openapi' or 'swagger' field. Is this an API description?"
  | .unsupportedSwagger version =>
    s!"Unsupported Swagger version: {version}. Only Swagger 2.0 is supported."
  | .unsupportedOpenApi version =>
    s!"Unsupported OpenAPI version: {version}. Only 3.x documents are supported."
  | .noInput => "No input received from stdin"
  | .notFound path => s!"Document not found: {path}"
  | .unreadable path reason => s!"Failed to read {path}: {reason}"
  | .emptyFile path => s!"Document is empty: {path}"

end DocumentError

end ClientModel
