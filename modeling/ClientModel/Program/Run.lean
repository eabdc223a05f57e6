/-
This file says what a run does with its arguments, and how it ends. A failure that is reported for
what it is ends the run with its own exit code; a defect is written into a report, and all that is
told is where that is.
-/

import ClientModel.Program.Commands

namespace ClientModel

/-! ### Reporting failures -/

namespace Context

/-- Tells why a run fails. -/
def tellError (context : Context) (text : String) : Action Unit := do
  Action.printText .diagnostics
    (← Action.ofExcept (context.settings.messageText (.error text)))

/-- Reports a defect in a file and tells where. -/
def reportDefect (context : Context) (cause : Failure) : Action Nat := do
  let path := context.surroundings.reportPath
  Action.write path (cause.message ++ "\n")
  context.tellError s!"Unexpected error. Debug log: {path.text}"
  pure FailureKind.general.exitCode

/-- Tells a failure that is reported for what it is; the product is the exit code. -/
def tellFailure (context : Context) (cause : Failure) : Action Nat := do
  context.tellError cause.message
  pure cause.exitCode

/-- Reports a failure; the product is the exit code. A failure that cannot be told, since its text
has broken markup, is a defect as well. -/
def report (context : Context) (cause : Failure) : Action Nat :=
  match cause with
  | .defect _ => context.reportDefect cause
  | _ => (context.tellFailure cause).orElse context.reportDefect

end Context

/-! ### Runs -/

namespace Program

/-- How the program is used. -/
def usage : String :=
  "Usage: clientsynth [OPTIONS] COMMAND [ARGS]...\n\n" ++
  "Commands: generate, info, init, inspect types, inspect operations\n"

/-- What a run does that has no command to do; the product is the exit code. -/
def stop : CommandLine.Stop → Action Nat
  | .help => do
    Action.printText .output usage
    pure 0
  | .version => do
    Action.printText .output s!"clientsynth {programVersion}\n"
    pure 0
  | .nothing => do
    Action.printText .output usage
    pure FailureKind.usage.exitCode
  | .misuse => do
    Action.printText .diagnostics usage
    pure FailureKind.usage.exitCode

/-- Does a command and reports its failure; the product is the exit code. -/
def perform (context : Context) (command : Command) : Action Nat :=
  ((context.execute command) >>= fun _ => pure 0).orElse context.report

/-- What a run does with its arguments; the product is the exit code. -/
def run (surroundings : Surroundings) (arguments : List String) : Action Nat :=
  match CommandLine.read arguments with
  | .error reason => stop reason
  | .ok (options, command) =>
    let settings := options.settings surroundings.environment surroundings.terminal
    perform ⟨surroundings, settings⟩ command

end Program

end ClientModel
