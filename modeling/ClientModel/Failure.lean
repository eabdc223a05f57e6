/-
This file lists the ways in which a run can fail, with the text and the exit code of each. Some
failures are reported for what they are: wrong usage, a document that cannot be had or cannot be
understood, a wrong configuration. The others are defects: the run meets something that no rule
provides for, and can only say that it did.
-/

import ClientModel.Binary64.Shortest
import ClientModel.Document.Extraction
import ClientModel.Files.Tree
import ClientModel.Json.Reader
import ClientModel.Json.Writer
import ClientModel.Output.Markup
import ClientModel.Text.Charset
import ClientModel.Text.Utf8
import ClientModel.Validation
import ClientModel.Value.Record
import ClientModel.Yaml.Token

namespace ClientModel

/-! ### Failures that are reported as what they are -/

/-- A wrong use of the command line. -/
inductive UsageError where
  /-- A header option that is not a name, a colon and a value. -/
  | invalidHeader (option : String)
  /-- A generation without a document and without a configured one. -/
  | nothingConfigured
  deriving DecidableEq, Repr

/-- The text of a wrong use. -/
def UsageError.message : UsageError → String
  | .invalidHeader option => s!"Invalid header {Text.quoted option}: expected 'Name: Value'"
  | .nothingConfigured => "No SPEC given and no APIs configured. Run: clientsynth init <spec>"

/-- Why a document could not be fetched. -/
inductive FetchError where
  /-- The answer has a status other than success. -/
  | status (code : Int) (url : String)
  /-- No answer came in time. -/
  | timedOut (seconds : Binary64) (url : String)
  /-- The exchange failed. -/
  | failed (url reason : String)
  deriving DecidableEq, Repr

/-- The text of a failed fetch. -/
def FetchError.message : FetchError → String
  | .status code url => s!"HTTP {code} fetching document from {url}"
  | .timedOut seconds url => s!"Timed out after {seconds.durationText}s fetching {url}"
  | .failed url reason => s!"Failed to fetch document from {url}: {reason}"

/-- What is wrong with a project configuration. -/
inductive ConfigurationError where
  /-- The file cannot be read. -/
  | unreadable (path reason : String)
  /-- The file is not JSON. -/
  | malformed (path detail : String)
  /-- The file is JSON of a wrong shape. -/
  | invalid (path : String) (issues : List Issue)
  deriving DecidableEq, Repr

/-- The text of one issue: the way to it, and what is wrong there. -/
def Issue.summary (issue : Issue) : String :=
  let steps := issue.path.map fun step =>
    match step with
    | .field name => name
    | .item position => toString position
  let way := ".".intercalate steps
  let wrong := match issue.fault with
    | .missing => "is missing"
    | .text | .encodedText => "should be a text"
    | .list => "should be a list"
    | .map | .record | .tagged => "should be an object"
    | .number | .numeral => "should be a number"
    | .truth | .truthWord => "should be true or false"
    | .tagMissing => "has no kind"
    | .tagUnknown | .choice => "is none of the known words"
  s!"{way} {wrong}"

/-- The text of a wrong configuration. -/
def ConfigurationError.message : ConfigurationError → String
  | .unreadable path reason => s!"Cannot read project config at {path}: {reason}"
  | .malformed path detail => s!"Invalid project config at {path}: {detail}"
  | .invalid path issues =>
    let details := "\n".intercalate (issues.map Issue.summary)
    s!"Invalid project config at {path}: {details}"

/-! ### Defects -/

/-- The text of a failed writing. -/
def WriteFault.message : WriteFault → String
  | .directory => "there is a directory"
  | .blocked => "there is a file where a directory should be"
  | .overlong => "the name of a file is too long"
  | .nullCharacter => "embedded null byte"
  | .nameless => "the name does not say which file is meant"

/-- Something that no rule provides for. -/
inductive Defect where
  /-- A value of the document has no JSON text. -/
  | unwritable (cause : Json.Unwritable)
  /-- A value of the document has no plain form. -/
  | plainForm (cause : Value.PlainFault)
  /-- The name or place of a parameter is a collection. -/
  | incomparable (kind : String)
  /-- The description of a server is not a text, or in bytes that are none. -/
  | serverDescription (fault : Fault)
  /-- An integer of JSON text has too many digits. -/
  | longInteger (digits : Nat)
  /-- A scalar of YAML text is not what its tag says. -/
  | scalar (cause : Yaml.ScalarFault)
  /-- A computation would go too deep, or on without end where a value is a part of itself. -/
  | endless
  /-- A file or the input is not text. -/
  | encoding (cause : Text.EncodingFault)
  /-- A body cannot be read in its character set. -/
  | charset (cause : Text.CharsetFault)
  /-- The markup of a message is wrong. -/
  | markup (cause : Markup.Fault)
  /-- A file cannot be written. -/
  | unwritableFile (path : String) (cause : WriteFault)
  /-- The name of a file is too long to be followed. -/
  | overlongName (path : String)
  /-- There is no output format of this name. -/
  | outputFormat (name : String)
  deriving DecidableEq, Repr

/-- The text of a defect. -/
def Defect.message : Defect → String
  | .unwritable cause => cause.message
  | .plainForm cause => cause.message
  | .incomparable kind => incomparableMessage kind
  | .serverDescription _ => "the description of a server should be a text"
  | .longInteger digits => Text.longIntegerMessage digits
  | .scalar cause => cause.message
  | .endless => "a part of the document is too deep, or a part of itself"
  | .encoding cause => cause.message
  | .charset cause => cause.message
  | .markup cause => cause.message
  | .unwritableFile path cause => s!"{cause.message}: {path}"
  | .overlongName path => s!"the name of a file is too long: {path}"
  | .outputFormat name => s!"{Text.quoted name} is not a valid OutputFormat"

/-! ### Failures -/

/-- The kinds of failures, by which exit codes are given. -/
inductive FailureKind where
  | general
  | usage
  | fetch
  | document
  | configuration
  deriving DecidableEq, Repr

/-- The exit code of a kind of failure. -/
def FailureKind.exitCode : FailureKind → Nat
  | .general => 1
  | .usage => 2
  | .fetch => 6
  | .document => 7
  | .configuration => 1

/-- Why a run fails. -/
inductive Failure where
  | usage (cause : UsageError)
  | fetch (cause : FetchError)
  | document (cause : DocumentError)
  | configuration (cause : ConfigurationError)
  | defect (cause : Defect)
  deriving Repr

namespace Failure

/-- The kind of a failure. -/
def kind : Failure → FailureKind
  | .usage _ => .usage
  | .fetch _ => .fetch
  | .document _ => .document
  | .configuration _ => .configuration
  | .defect _ => .general

/-- The text of a failure. -/
def message : Failure → String
  | .usage cause => cause.message
  | .fetch cause => cause.message
  | .document cause => cause.message
  | .configuration cause => cause.message
  | .defect cause => cause.message

/-- The exit code of a failure. -/
def exitCode (failure : Failure) : Nat := failure.kind.exitCode

/-- A failure to understand a document. -/
def ofExtraction : ExtractionError → Failure
  | .malformed cause => .document cause
  | .incomparable kind => .defect (.incomparable kind)
  | .serverDescription fault => .defect (.serverDescription fault)
  | .endlessSchema => .defect .endless

/-- A failure to decode YAML text otherwise than by its form. -/
def ofScalar (cause : Yaml.ScalarFault) : Failure := .defect (.scalar cause)

end Failure

end ClientModel
