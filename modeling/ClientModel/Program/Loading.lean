/-
This file says how a run tells what it does, and how it comes by documents, models and
configurations.
-/

import ClientModel.Assembly.Model
import ClientModel.CommandLine.Command
import ClientModel.Configuration.Basic
import ClientModel.Configuration.Place
import ClientModel.Output.Data
import ClientModel.Program.Action

namespace ClientModel

/-- What a run goes by: what it finds around it, and how it writes. -/
structure Context where
  surroundings : Surroundings
  settings : OutputSettings

namespace Context

/-- The environment of a run. -/
def environment (context : Context) : Environment := context.surroundings.environment

/-! ### Telling -/

/-- Tells a message. -/
def tell (context : Context) (message : Message) : Action Unit := do
  let text ← Action.ofExcept (context.settings.messageText message)
  Action.printText .diagnostics text

/-- Leaves a note. -/
def note (context : Context) (notice : Notice) : Action Unit :=
  Action.printText .diagnostics (context.settings.noticeText notice)

/-- Leaves notes. -/
def noteAll (context : Context) : List Notice → Action Unit
  | [] => pure ()
  | notice :: rest => do
    context.note notice
    context.noteAll rest

/-- Writes data. -/
def putOut (text : String) : Action Unit := Action.printText .output text

/-! ### Documents -/

/-- The value of a document. The headers are sent as they are. -/
def loadValue (context : Context) (source : String) (headers : Headers) (timeout : Binary64) :
    Action Value :=
  match Source.ofText source with
  | .input => do
    let text ← Action.input
    Action.ofExcept (Source.documentOfInput text)
  | .url url => do
    context.note (.fetching url)
    let request := Request.forDocument url headers timeout
    let reply ← Action.send request
    Action.ofExcept (reply.document request)
  | .file name => do
    let content ← Action.read (Path.ofText name)
    Action.ofExcept (Source.documentOfFile name content)

/-- A document that was understood. Placeholders in the headers are filled before they are
sent. -/
def loadDocument (context : Context) (source : String) (headers : Headers) (timeout : Binary64) :
    Action Document := do
  let value ← context.loadValue source (headers.fill context.environment) timeout
  Action.ofExcept ((Extraction.documentOf value.entriesOrEmpty).mapError .ofExtraction)

/-- The document that options of a command name. -/
def loadOptions (context : Context) (options : DocumentOptions) : Action Document := do
  let headers ← Action.ofExcept ((Headers.ofOptions options.headers).mapError .usage)
  context.loadDocument options.source headers options.timeout

/-! ### Models -/

/-- The model of a document. What is noted on the way is told even where the model fails. -/
def buildModel (context : Context) (document : Document) (operationIds : Option (List String)) :
    Action Model := do
  let assembly := Assembly.modelOf document operationIds
  context.noteAll assembly.notices
  Action.ofExcept (assembly.result.mapError fun cause => .defect (.unwritable cause))

/-! ### Configurations -/

/-- The configuration in what was read under a name; nothing where there is no file. -/
def projectOfFile (path : Path) : FileContent → Except Failure (Option Project)
  | .absent | .directory => .ok none
  | .overlong => .error (.defect (.overlongName path.text))
  | .refused reason => .error (.configuration (.unreadable path.text reason))
  | .bytes content =>
    match Text.readUtf8 content with
    | .error fault => .error (.defect (.encoding fault))
    | .ok text => (Project.ofText path.text (Text.withUnifiedLineEnds text)).map some

/-- The configuration of a project as it is stored. -/
def loadStored (context : Context) (named : Option Path) : Action (Option Project) := do
  let path := context.surroundings.configurationPath named
  let content ← Action.read path
  Action.ofExcept (projectOfFile path content)

/-- The configuration of a project, the placeholders in its headers filled. -/
def loadFilled (context : Context) (named : Option Path) : Action (Option Project) := do
  let project ← context.loadStored named
  pure (project.map (Project.fill context.environment))

/-- Stores the configuration of a project, and tells where. -/
def store (context : Context) (named : Option Path) (project : Project) : Action Path := do
  let path := context.surroundings.configurationPath named
  Action.write path project.text
  pure path

end Context

end ClientModel
