/-
This file defines the commands of the program and reads them from arguments. The options about
the output come before the command, its own options after it.
-/

import ClientModel.Binary64.Decimal
import ClientModel.CommandLine.Option
import ClientModel.Configuration.Basic
import ClientModel.Files.Path
import ClientModel.Output.Basic

namespace ClientModel

/-! ### Commands -/

/-- How a document is to be had. -/
structure DocumentOptions where
  source : String
  /-- The headers to send, each as it was given. -/
  headers : List String
  timeout : Binary64
  deriving DecidableEq, Repr

/-- What is to be generated. -/
structure GenerateOptions where
  /-- The document; nothing for every interface of the project. -/
  source : Option String
  headers : List String
  timeout : Binary64
  output : String
  operationIds : List String
  dryRun : Bool
  configuration : Option Path
  deriving DecidableEq, Repr

/-- What is to be added to the configuration. -/
structure RegisterOptions where
  document : DocumentOptions
  output : String
  name : Option String
  configuration : Option Path
  deriving DecidableEq, Repr

/-- What a run is to do. -/
inductive Command where
  | generate (options : GenerateOptions)
  | info (options : DocumentOptions)
  | register (options : RegisterOptions)
  | listTypes (options : DocumentOptions)
  | listOperations (options : DocumentOptions)
  deriving DecidableEq, Repr

namespace CommandLine

/-! ### What ends a run early -/

/-- Why there is no command to do. -/
inductive Stop where
  /-- Help was asked for. -/
  | help
  /-- The version was asked for. -/
  | version
  /-- Nothing was asked for. -/
  | nothing
  /-- The arguments are wrong. -/
  | misuse
  deriving DecidableEq, Repr

/-! ### Options -/

/-- The options of the program. -/
inductive Key where
  | version
  | json
  | plain
  | noColor
  | quiet
  | verbose
  | help
  | output
  | header
  | operationId
  | timeout
  | dryRun
  | configuration
  | name
  deriving DecidableEq, Repr

/-- Asks for help. -/
def helpForm : OptionForm Key := ⟨.help, "--help", none, false⟩

/-- The options in front of a command. -/
def outputForms : List (OptionForm Key) := [
  ⟨.version, "--version", none, false⟩,
  ⟨.json, "--json", none, false⟩,
  ⟨.plain, "--plain", none, false⟩,
  ⟨.noColor, "--no-color", none, false⟩,
  ⟨.quiet, "--quiet", some 'q', false⟩,
  ⟨.verbose, "--verbose", some 'v', false⟩,
  helpForm]

/-- The options about fetching. -/
def fetchForms : List (OptionForm Key) := [
  ⟨.header, "--header", some 'H', true⟩,
  ⟨.timeout, "--timeout", none, true⟩,
  helpForm]

/-- The options of a generation. -/
def generateForms : List (OptionForm Key) :=
  fetchForms ++ [
    ⟨.output, "--output", some 'o', true⟩,
    ⟨.operationId, "--operation-id", none, true⟩,
    ⟨.dryRun, "--dry-run", some 'n', false⟩,
    ⟨.configuration, "--config", none, true⟩]

/-- The options of an addition to the configuration. -/
def registerForms : List (OptionForm Key) :=
  fetchForms ++ [
    ⟨.output, "--output", some 'o', true⟩,
    ⟨.name, "--name", none, true⟩,
    ⟨.configuration, "--config", none, true⟩]

/-! ### Reading commands -/

/-- The arguments after a command; asking for help ends the run. -/
def readOwn (forms : List (OptionForm Key)) (arguments : List String) :
    Except Stop (ReadArguments Key) :=
  match readArguments forms true arguments with
  | none => .error .misuse
  | some read => if read.has .help then .error .help else .ok read

/-- The number of seconds that a fetch may take. -/
def timeoutOf (read : ReadArguments Key) : Except Stop Binary64 :=
  match read.value? .timeout with
  | none => .ok ApiEntry.defaultTimeout
  | some text =>
    match Binary64.readLoose? text.toList with
    | some seconds => .ok seconds
    | none => .error .misuse

/-- The one source that is named. -/
def sourceOf (read : ReadArguments Key) : Except Stop String :=
  match read.others with
  | [source] => .ok source
  | _ => .error .misuse

/-- The source that is named, if one is. -/
def sourceOf? (read : ReadArguments Key) : Except Stop (Option String) :=
  match read.others with
  | [] => .ok none
  | [source] => .ok (some source)
  | _ => .error .misuse

/-- How the document of a command is to be had. -/
def documentOptions (read : ReadArguments Key) : Except Stop DocumentOptions := do
  let source ← sourceOf read
  let timeout ← timeoutOf read
  pure ⟨source, read.values .header, timeout⟩

/-- The configuration file that is named, if one is. -/
def configurationOf (read : ReadArguments Key) : Option Path :=
  (read.value? .configuration).map Path.ofText

/-- Where the model goes. -/
def outputOf (read : ReadArguments Key) : String :=
  (read.value? .output).getD ApiEntry.defaultOutput

/-- Reads what is to be generated. -/
def readGenerate (arguments : List String) : Except Stop Command := do
  let read ← readOwn generateForms arguments
  let source ← sourceOf? read
  let timeout ← timeoutOf read
  pure (.generate ⟨source, read.values .header, timeout, outputOf read, read.values .operationId,
    read.has .dryRun, configurationOf read⟩)

/-- Reads what is to be added to the configuration. -/
def readRegister (arguments : List String) : Except Stop Command := do
  let read ← readOwn registerForms arguments
  let document ← documentOptions read
  pure (.register ⟨document, outputOf read, read.value? .name, configurationOf read⟩)

/-- Reads a command that only looks at a document. -/
def readLook (command : DocumentOptions → Command) (arguments : List String) :
    Except Stop Command := do
  let read ← readOwn fetchForms arguments
  let document ← documentOptions read
  pure (command document)

/-- Reads what of a document is to be listed. -/
def readInspect (arguments : List String) : Except Stop Command :=
  if arguments.isEmpty then .error .nothing
  else
    match readArguments [helpForm] false arguments with
    | none => .error .misuse
    | some read =>
      if read.has .help then .error .help
      else
        match read.others with
        | "types" :: rest => readLook .listTypes rest
        | "operations" :: rest => readLook .listOperations rest
        | _ => .error .misuse

/-- Reads the command that a word names. -/
def readCommand (word : String) (arguments : List String) : Except Stop Command :=
  match word with
  | "generate" => readGenerate arguments
  | "info" => readLook .info arguments
  | "init" => readRegister arguments
  | "inspect" => readInspect arguments
  | _ => .error .misuse

/-- What the options in front of the command ask of the output. -/
def outputOptions (read : ReadArguments Key) : OutputOptions where
  format := if read.has .json then .json else if read.has .plain then .plain else .auto
  noColor := read.has .noColor
  quiet := read.has .quiet
  verbose := read.has .verbose

/-- What ends the run among the options in front of the command: of help and version, the one that
comes first. -/
def earlyStop? (read : ReadArguments Key) : Option Stop :=
  read.options.findSome? fun option =>
    match option.1 with
    | .help => some .help
    | .version => some .version
    | _ => none

/-- Reads the arguments of a run. -/
def read (arguments : List String) : Except Stop (OutputOptions × Command) :=
  if arguments.isEmpty then .error .nothing
  else
    match readArguments outputForms false arguments with
    | none => .error .misuse
    | some read =>
      match earlyStop? read, read.others with
      | some stop, _ => .error stop
      | none, [] => .error .misuse
      | none, word :: rest =>
        (readCommand word rest).map fun command => (outputOptions read, command)

end CommandLine

end ClientModel
