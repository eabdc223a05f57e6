/-
This file lists what a run may note while it works, with the severity and the text of each note.
-/

import ClientModel.Text.Quoted

namespace ClientModel

/-- How much a note matters. -/
inductive Severity where
  | debug
  | info
  | warning
  | error
  | critical
  deriving DecidableEq, Repr

/-- A severity as it is written. -/
def Severity.name : Severity → String
  | .debug => "DEBUG"
  | .info => "INFO"
  | .warning => "WARNING"
  | .error => "ERROR"
  | .critical => "CRITICAL"

/-- How severe a note is, as a number. -/
def Severity.rank : Severity → Nat
  | .debug => 10
  | .info => 20
  | .warning => 30
  | .error => 40
  | .critical => 50

/-- An operation as notes name it: its verb in capitals and its path. -/
structure Endpoint where
  verb : String
  path : String
  deriving DecidableEq, Repr

/-- A note. -/
inductive Notice where
  /-- Two schemas have the same identifier; the later one counts. -/
  | schemaReplaced (name previous identifier : String)
  /-- Two operations have the same call; the later one counts. -/
  | operationReplaced (later earlier : Endpoint) (call : String)
  /-- A parameter without a name was left out. -/
  | unnamedParameter (operationId : String)
  /-- A parameter that no call passes was left out. -/
  | skippedParameter (location name operationId : String)
  /-- A type is mentioned and not declared. -/
  | undeclared (name : String)
  /-- The model is complete. -/
  | assembled (declarations operations : Nat)
  /-- A document is being fetched. -/
  | fetching (url : String)
  /-- A file was written. -/
  | wrote (path : String)
  deriving DecidableEq, Repr

namespace Notice

/-- The severity of a note: what is lost is a warning, everything else is detail. -/
def severity : Notice → Severity
  | .schemaReplaced _ _ _ | .operationReplaced _ _ _ => .warning
  | _ => .debug

/-- How many columns are kept free beside a note in verbose runs, for the place that it comes
from. -/
def margin : Notice → Nat
  | .schemaReplaced _ _ _ | .undeclared _ => 17
  | .operationReplaced _ _ _ | .unnamedParameter _ | .skippedParameter _ _ _ => 18
  | .assembled _ _ | .wrote _ => 16
  | .fetching _ => 13

/-- The text of a note. -/
def message : Notice → String
  | .schemaReplaced name previous identifier =>
    s!"Schema {Text.quoted name} replaces {Text.quoted previous} (both named {identifier})"
  | .operationReplaced later earlier call =>
    s!"Operation {later.verb} {later.path} replaces {earlier.verb} {earlier.path} as {call}"
  | .unnamedParameter operationId => s!"Skipping unnamed parameter on {operationId}"
  | .skippedParameter location name operationId =>
    s!"Skipping {location} parameter {Text.quoted name} on {operationId}"
  | .undeclared name => s!"Reference to undeclared type {name}"
  | .assembled declarations operations =>
    s!"Assembled {declarations} declarations and {operations} operations"
  | .fetching url => s!"Fetching {url}"
  | .wrote path => s!"Wrote {path}"

end Notice

end ClientModel
