/-
This file defines what a run does to the world: it reads and writes files, reads the input, fetches
documents and prints. An action asks for these one after another, ends with a product or a failure,
and does not say how they are done. The main statement is that doing one action after another on a
desk, as defined beside it, is doing the first and going on where it stopped.
-/

import ClientModel.Document.Source
import ClientModel.Fetching.Request
import ClientModel.Files.Tree

namespace ClientModel

/-- Where something is printed. -/
inductive PrintTarget where
  | output
  | diagnostics
  deriving DecidableEq, Repr

/-- What a run does. -/
inductive Action (Product : Type) where
  | done (product : Product)
  | failed (cause : Failure)
  | readFile (path : Path) (next : FileContent → Action Product)
  /-- Writes a file; the answer tells why that could not be done, if it could not. -/
  | writeFile (path : Path) (content : String) (next : Except WriteFault Unit → Action Product)
  | readInput (next : Except Text.EncodingFault String → Action Product)
  | fetch (request : Request) (next : Reply → Action Product)
  | print (target : PrintTarget) (text : String) (next : Action Product)

namespace Action

variable {Product Further : Type}

/-- One action after another. -/
def andThen : Action Product → (Product → Action Further) → Action Further
  | .done product, continuation => continuation product
  | .failed cause, _ => .failed cause
  | .readFile path next, continuation =>
    .readFile path fun content => (next content).andThen continuation
  | .writeFile path content next, continuation =>
    .writeFile path content fun written => (next written).andThen continuation
  | .readInput next, continuation => .readInput fun text => (next text).andThen continuation
  | .fetch request next, continuation =>
    .fetch request fun reply => (next reply).andThen continuation
  | .print target text next, continuation => .print target text (next.andThen continuation)

instance : Monad Action where
  pure := .done
  bind := andThen

/-- Goes on after a failure. -/
def orElse : Action Product → (Failure → Action Product) → Action Product
  | .done product, _ => .done product
  | .failed cause, rescue => rescue cause
  | .readFile path next, rescue => .readFile path fun content => (next content).orElse rescue
  | .writeFile path content next, rescue =>
    .writeFile path content fun written => (next written).orElse rescue
  | .readInput next, rescue => .readInput fun text => (next text).orElse rescue
  | .fetch request next, rescue => .fetch request fun reply => (next reply).orElse rescue
  | .print target text next, rescue => .print target text (next.orElse rescue)

/-! ### Single steps -/

/-- Takes over a result or a failure. -/
def ofExcept : Except Failure Product → Action Product
  | .ok product => .done product
  | .error cause => .failed cause

/-- Reads what is under a name. -/
def read (path : Path) : Action FileContent := .readFile path .done

/-- Writes a file. -/
def write (path : Path) (content : String) : Action Unit :=
  .writeFile path content fun written =>
    ofExcept (written.mapError fun fault => .defect (.unwritableFile path.text fault))

/-- Reads the input, which has to be text. -/
def input : Action String :=
  .readInput fun text => ofExcept (text.mapError fun fault => .defect (.encoding fault))

/-- Sends a request. -/
def send (request : Request) : Action Reply := .fetch request .done

/-- Prints a text; nothing is printed for an empty one. -/
def printText (target : PrintTarget) (text : String) : Action Unit :=
  if text.isEmpty then .done () else .print target text (.done ())

end Action

/-! ### Desks -/

/-- What a run works on, and what it has printed. -/
structure Desk where
  /-- The directory from which names start. -/
  working : Location
  files : FileTree
  input : Except Text.EncodingFault String
  /-- What a request is answered with. -/
  network : Request → Reply
  output : String := ""
  diagnostics : String := ""
  /-- The requests that were sent, the first one first. -/
  requests : List Request := []

namespace Desk

/-- Puts a printed text behind what was printed before. -/
def print (target : PrintTarget) (text : String) (desk : Desk) : Desk :=
  match target with
  | .output => { desk with output := desk.output ++ text }
  | .diagnostics => { desk with diagnostics := desk.diagnostics ++ text }

/-- Writes a file where that can be done. -/
def write (path : Path) (content : String) (desk : Desk) : Except WriteFault Unit × Desk :=
  match desk.files.write desk.working path content.toUTF8 with
  | .ok files => (.ok (), { desk with files := files })
  | .error fault => (.error fault, desk)

/-- Takes the whole input; nothing is left of it. -/
def takeInput (desk : Desk) : Except Text.EncodingFault String × Desk :=
  (desk.input, { desk with input := .ok "" })

/-- Sends a request. -/
def send (request : Request) (desk : Desk) : Reply × Desk :=
  (desk.network request, { desk with requests := desk.requests ++ [request] })

end Desk

namespace Action

variable {Product Further : Type}

/-- Does an action on a desk. -/
def run : Action Product → Desk → Except Failure Product × Desk
  | .done product, desk => (.ok product, desk)
  | .failed cause, desk => (.error cause, desk)
  | .readFile path next, desk => (next (desk.files.read desk.working path)).run desk
  | .writeFile path content next, desk =>
    let (written, desk) := desk.write path content
    (next written).run desk
  | .readInput next, desk =>
    let (text, desk) := desk.takeInput
    (next text).run desk
  | .fetch request next, desk =>
    let (reply, desk) := desk.send request
    (next reply).run desk
  | .print target text next, desk => next.run (desk.print target text)

/-- Doing two actions is doing the first and, where it does not fail, the second on what it
left. -/
theorem run_bind (first : Action Product) (second : Product → Action Further) (desk : Desk) :
    (first >>= second).run desk =
      match first.run desk with
      | (.ok product, desk) => (second product).run desk
      | (.error cause, desk) => (.error cause, desk) := by
  show (first.andThen second).run desk = _
  induction first generalizing desk with
  | done product => rfl
  | failed cause => rfl
  | readFile path next inductionHypothesis => exact inductionHypothesis _ desk
  | writeFile path content next inductionHypothesis => exact inductionHypothesis _ _
  | readInput next inductionHypothesis => exact inductionHypothesis _ _
  | fetch request next inductionHypothesis => exact inductionHypothesis _ _
  | print target text next inductionHypothesis => exact inductionHypothesis _

end Action

end ClientModel
