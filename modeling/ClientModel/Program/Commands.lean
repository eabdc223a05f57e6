/-
This file says what each command does. A generation goes through its interfaces in order and stops
at the first that fails; an addition to the configuration writes nothing unless the document could
be understood.
-/

import ClientModel.Model.Record
import ClientModel.Program.Loading
import ClientModel.Types.Rendering

namespace ClientModel.Context

/-! ### Generating -/

/-- The file of a model in its directory. -/
def modelFile : String := "model.json"

/-- How much a model holds. -/
def summary (document : Document) (model : Model) : String :=
  let title := document.info.title
  s!"{title}: {model.declarations.length} types, {model.root.walk.length} operations"

/-- The record of a model, where everything in it has a plain form. -/
def modelRecord (model : Model) : Except Failure Value :=
  model.record.written?.mapError fun cause => .defect (.plainForm cause)

/-- The text of the record of a model. -/
def modelText (record : Value) : Except Failure String :=
  match Json.write? Json.dataStyle record with
  | .ok text => .ok (text ++ "\n")
  | .error cause => .error (.defect (.unwritable cause))

/-- The operations that an entry wants: all where it lists none. -/
def wantedOperations (entry : ApiEntry) : Option (List String) :=
  if entry.operationIds.isEmpty then none else some entry.operationIds

/-- Puts a model where an entry says: to the output, to its file, or nowhere. -/
def deliver (context : Context) (dryRun : Bool) (entry : ApiEntry) (document : Document)
    (model : Model) : Action Unit := do
  let record ← Action.ofExcept (modelRecord model)
  if entry.output == "-" then putOut (← Action.ofExcept (modelText record))
  else if dryRun then context.tell (.info s!"[dry-run] {summary document model}")
  else
    let path := (Path.ofText entry.output).inside [modelFile]
    Action.write path (← Action.ofExcept (modelText record))
    context.note (.wrote path.text)
    context.tell (.success s!"{summary document model} -> {path.text}")

/-- Generates the model of one interface. -/
def generateEntry (context : Context) (dryRun : Bool) (entry : ApiEntry) : Action Unit := do
  context.tell (.info s!"Loading {entry.source}")
  let document ← context.loadDocument entry.source entry.headers entry.timeout
  let model ← context.buildModel document (wantedOperations entry)
  context.deliver dryRun entry document model

/-- Generates the models of interfaces one after another. -/
def generateAll (context : Context) (dryRun : Bool) : List ApiEntry → Action Unit
  | [] => pure ()
  | entry :: rest => do
    context.generateEntry dryRun entry
    context.generateAll dryRun rest

/-- The interfaces of a project, which have to be some. -/
def configuredEntries : Option Project → Except Failure (List ApiEntry)
  | none => .error (.usage .nothingConfigured)
  | some project =>
    if project.apis.isEmpty then .error (.usage .nothingConfigured) else .ok project.apis

/-- The interface that options name. -/
def namedEntry (source : String) (options : GenerateOptions) : Except Failure ApiEntry := do
  let headers ← (Headers.ofOptions options.headers).mapError .usage
  pure ⟨source, source, options.output, headers, options.operationIds, options.timeout⟩

/-- The interfaces to generate: the one that is named, else those of the project. -/
def entriesToGenerate (context : Context) (options : GenerateOptions) :
    Action (List ApiEntry) :=
  match options.source with
  | some source => do
    let entry ← Action.ofExcept (namedEntry source options)
    pure [entry]
  | none => do
    let project ← context.loadFilled options.configuration
    Action.ofExcept (configuredEntries project)

/-- Generates models. -/
def generate (context : Context) (options : GenerateOptions) : Action Unit := do
  let entries ← context.entriesToGenerate options
  context.generateAll options.dryRun entries

/-! ### Adding to the configuration -/

/-- The entry for a document, under the given name if it is one. -/
def entryFor (document : Document) (options : RegisterOptions) (headers : Headers) : ApiEntry :=
  let entry := ApiEntry.ofDocument document options.document.source options.output headers
    options.document.timeout
  match options.name with
  | some name => if name.isEmpty then entry else { entry with name := name }
  | none => entry

/-- Adds an interface to the configuration, in place of an earlier one of its name. -/
def register (context : Context) (options : RegisterOptions) : Action Unit := do
  let headers ← Action.ofExcept ((Headers.ofOptions options.document.headers).mapError .usage)
  let document ← context.loadDocument options.document.source headers options.document.timeout
  let entry := entryFor document options headers
  let stored ← context.loadStored options.configuration
  let project := stored.getD {}
  let path ← context.store options.configuration (project.put entry)
  let verb := if project.has entry.name then "Updated" else "Added"
  let count := entry.operationIds.length
  context.tell (.success s!"{verb} \"{entry.name}\" ({count} operations) in {path.text}")
  context.tell (.suggestion "Generate: clientsynth generate")

/-! ### Looking at documents -/

/-- A text, or a dash for none. -/
def orDash (text : String) : String := if text.isEmpty then "-" else text

/-- What is told about a document. -/
def documentRecord (document : Document) : DataRecord := [
  ("title", .string document.info.title),
  ("version", .string document.info.version),
  ("document_version", .string document.version),
  ("description", .string (orDash (document.info.description.getD ""))),
  ("servers", .ofTexts (document.servers.map Server.url)),
  ("paths", .int ((document.operations.map Operation.path).eraseDups.length : Nat)),
  ("operations", .int (document.operations.length : Nat)),
  ("schemas", .int (document.schemas.length : Nat))]

/-- Tells about a document. -/
def info (context : Context) (options : DocumentOptions) : Action Unit := do
  let document ← context.loadOptions options
  putOut (context.settings.dataRecordText (documentRecord document))

/-- The text of a type, where it has one. -/
def typeText (type : TypeExpr) : Except Failure String :=
  type.render?.mapError fun cause => .defect (.unwritable cause)

/-- The row of a declaration. -/
def declarationRow (declaration : Declaration) : Except Failure (List Value) := do
  let text ← typeText declaration.type
  let supertypes := orDash (", ".intercalate declaration.supertypes)
  pure [.string declaration.identifier, .string declaration.name, .string text,
    .string supertypes]

/-- The row of a call. -/
def callRow (call : Call) : Except Failure (List Value) := do
  let text ← typeText call.responseType
  pure [.string call.qualifiedName, .string call.verb.capitals, .string call.urlTemplate,
    .string text, .string (if call.deprecated then "Yes" else "")]

/-- The declarations of a model as a table. -/
def declarationTable (model : Model) : Except Failure DataTable := do
  let rows ← model.declarations.mapM declarationRow
  pure ⟨["Type", "Schema", "Definition", "Extends"], rows⟩

/-- The calls of a model as a table. -/
def callTable (model : Model) : Except Failure DataTable := do
  let rows ← model.root.walk.mapM callRow
  pure ⟨["Call", "Method", "Path", "Returns", "Deprecated"], rows⟩

/-- Lists something of the model of a document. -/
def list (context : Context) (table : Model → Except Failure DataTable)
    (options : DocumentOptions) : Action Unit := do
  let document ← context.loadOptions options
  let model ← context.buildModel document none
  let found ← Action.ofExcept (table model)
  putOut (context.settings.tableText found)

/-! ### Commands -/

/-- Does a command. -/
def execute (context : Context) : Command → Action Unit
  | .generate options => context.generate options
  | .info options => context.info options
  | .register options => context.register options
  | .listTypes options => context.list declarationTable options
  | .listOperations options => context.list callTable options

end ClientModel.Context
