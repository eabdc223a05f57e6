/-
This file defines the configuration of a project: the interfaces that are to be generated, each
with where its document is and where its model goes. A configuration is stored as JSON text.
-/

import ClientModel.Configuration.Headers
import ClientModel.Json.Reader
import ClientModel.Json.Writer
import ClientModel.Value.Record

namespace ClientModel

/-! ### Configurations -/

/-- An interface of a project. -/
structure ApiEntry where
  name : String
  /-- A URL, the name of a file, or a dash for the input. -/
  source : String
  /-- The directory of the model, or a dash for the output. -/
  output : String
  headers : Headers
  /-- The wanted operations; none for all. -/
  operationIds : List String
  /-- How many seconds a fetch may take. -/
  timeout : Binary64
  deriving DecidableEq, Repr

namespace ApiEntry

/-- Where a model goes unless something else is said. -/
def defaultOutput : String := "./generated"

/-- How many seconds a fetch may take unless something else is said. -/
def defaultTimeout : Binary64 := Binary64.ofInt 30

/-- An entry with the placeholders in its headers filled. -/
def fill (environment : Environment) (entry : ApiEntry) : ApiEntry :=
  { entry with headers := entry.headers.fill environment }

end ApiEntry

/-- The configuration of a project. -/
structure Project where
  apis : List ApiEntry := []
  deriving DecidableEq, Repr

namespace Project

/-- A configuration with the placeholders in all headers filled. -/
def fill (environment : Environment) (project : Project) : Project :=
  { apis := project.apis.map (ApiEntry.fill environment) }

/-- Puts an entry in place of every entry of the same name. -/
def replaced (entry : ApiEntry) (project : Project) : Project :=
  { apis := project.apis.map fun existing =>
      if existing.name == entry.name then entry else existing }

/-- Whether there is an entry of a name. -/
def has (name : String) (project : Project) : Bool :=
  project.apis.any (·.name == name)

/-- Puts an entry in place of those of the same name, or at the end where there is none. -/
def put (entry : ApiEntry) (project : Project) : Project :=
  if project.has entry.name then project.replaced entry else { apis := project.apis ++ [entry] }

end Project

/-! ### Writing -/

/-- The record of an entry. -/
def ApiEntry.record (entry : ApiEntry) : Value :=
  .record [
    ("name", .string entry.name),
    ("spec", .string entry.source),
    ("output", .string entry.output),
    ("headers", .record (entry.headers.map fun header => (header.1, .string header.2))),
    ("operation_ids", .ofTexts entry.operationIds),
    ("timeout", .float entry.timeout)]

/-- The record of a configuration. -/
def Project.record (project : Project) : Value :=
  .record [("apis", .list (project.apis.map ApiEntry.record))]

/-- The text in which a configuration is stored. -/
def Project.text (project : Project) : String :=
  Json.write Json.configurationStyle project.record ++ "\n"

/-! ### Reading -/

/-- The entry that fields give. -/
def ApiEntry.ofFields (fields : Entries) : Checked ApiEntry :=
  (Checked.both (Check.required "name" Check.text fields)
    (Checked.both (Check.required "spec" Check.text fields)
      (Checked.both (Check.withDefault "output" defaultOutput Check.text fields)
        (Checked.both (Check.withDefault "headers" [] (Check.mapOf Check.text) fields)
          (Checked.both (Check.withDefault "operation_ids" [] (Check.listOf Check.text) fields)
            (Check.withDefault "timeout" defaultTimeout Check.number fields)))))).map
    fun (name, source, output, headers, operationIds, timeout) =>
      ⟨name, source, output, headers, operationIds, timeout⟩

/-- The entry that a value gives. -/
def ApiEntry.check : Value → Checked ApiEntry := Check.recordOf ApiEntry.ofFields

/-- The configuration that a value gives. -/
def Project.check : Value → Checked Project :=
  Check.recordOf fun fields =>
    (Check.withDefault "apis" [] (Check.listOf ApiEntry.check) fields).map fun apis => ⟨apis⟩

/-- The configuration in a text; `path` is the file that it was found in. -/
def Project.ofText (path text : String) : Except Failure Project :=
  match Json.read text with
  | .ok value =>
    (Project.check value).mapError fun issues => .configuration (.invalid path issues)
  | .error (.longInteger digits) => .error (.defect (.longInteger digits))
  | .error .tooDeep => .error (.defect .endless)
  | .error error => .error (.configuration (.malformed path (error.message text.toList)))

/-! ### Entries of documents -/

/-- The ids of all operations of a document in rising order, each once. -/
def Document.operationIds (document : Document) : List String :=
  ((document.operations.map Operation.effectiveId).eraseDups).mergeSort (· ≤ ·)

/-- An entry that lists every operation of a document. -/
def ApiEntry.ofDocument (document : Document) (source output : String) (headers : Headers)
    (timeout : Binary64) : ApiEntry :=
  ⟨document.info.title, source, output, headers, document.operationIds, timeout⟩

end ClientModel
