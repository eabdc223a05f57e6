/-
This file defines the computations that build a model. Such a computation asks for identifiers,
leaves notes, and may fail on a value that documentation cannot show. It does not say where
identifiers come from: `result` makes each one anew, `run` answers from a memory and keeps what it
makes. The main statement is that with a right memory the two agree and the memory stays right.
-/

import ClientModel.Json.Writer
import ClientModel.Naming.Memory
import ClientModel.Notice

namespace ClientModel

/-! ### Computations -/

/-- A computation that builds something of a model. -/
inductive Assembly (Product : Type) where
  | done (product : Product)
  | failed (cause : Json.Unwritable)
  | typeIdentifier (raw : String) (next : String → Assembly Product)
  | propertyIdentifier (raw : String) (next : String → Assembly Product)
  | callPath (operationId : String) (next : Naming.CallPath → Assembly Product)
  | note (notice : Notice) (next : Assembly Product)

namespace Assembly

variable {Product Further : Type}

/-- One computation after another. -/
def andThen : Assembly Product → (Product → Assembly Further) → Assembly Further
  | .done product, continuation => continuation product
  | .failed cause, _ => .failed cause
  | .typeIdentifier raw next, continuation =>
    .typeIdentifier raw fun identifier => (next identifier).andThen continuation
  | .propertyIdentifier raw next, continuation =>
    .propertyIdentifier raw fun identifier => (next identifier).andThen continuation
  | .callPath operationId next, continuation =>
    .callPath operationId fun path => (next path).andThen continuation
  | .note notice next, continuation => .note notice (next.andThen continuation)

instance : Monad Assembly where
  pure := .done
  bind := andThen

/-! ### Requests -/

/-- Asks for the type identifier of a name. -/
def askType (raw : String) : Assembly String := .typeIdentifier raw .done

/-- Asks for the accessor of a property. -/
def askProperty (raw : String) : Assembly String := .propertyIdentifier raw .done

/-- Asks for the path of an operation id. -/
def askPath (operationId : String) : Assembly Naming.CallPath := .callPath operationId .done

/-- Leaves a note. -/
def leave (notice : Notice) : Assembly Unit := .note notice (.done ())

/-- Takes over a result or a failure. -/
def ofExcept : Except Json.Unwritable Product → Assembly Product
  | .ok product => .done product
  | .error cause => .failed cause

/-! ### Making each identifier anew -/

/-- The product, each identifier made anew. -/
def result : Assembly Product → Except Json.Unwritable Product
  | .done product => .ok product
  | .failed cause => .error cause
  | .typeIdentifier raw next => (next (Naming.typeIdentifier raw)).result
  | .propertyIdentifier raw next => (next (Naming.propertyIdentifier raw)).result
  | .callPath operationId next => (next (Naming.callPath operationId)).result
  | .note _ next => next.result

/-- The notes that are left on the way, up to a failure. -/
def notices : Assembly Product → List Notice
  | .done _ => []
  | .failed _ => []
  | .typeIdentifier raw next => (next (Naming.typeIdentifier raw)).notices
  | .propertyIdentifier raw next => (next (Naming.propertyIdentifier raw)).notices
  | .callPath operationId next => (next (Naming.callPath operationId)).notices
  | .note notice next => notice :: next.notices

/-! ### Answering from a memory -/

/-- What a run leaves behind: the product or the failure, the notes, and the memory. -/
structure Outcome (Product : Type) where
  result : Except Json.Unwritable Product
  notices : List Notice
  memory : Naming.Memory

/-- Runs a computation on a memory. -/
def run : Assembly Product → Naming.Memory → Outcome Product
  | .done product, memory => ⟨.ok product, [], memory⟩
  | .failed cause, memory => ⟨.error cause, [], memory⟩
  | .typeIdentifier raw next, memory =>
    let (identifier, memory) := memory.typeIdentifier raw
    (next identifier).run memory
  | .propertyIdentifier raw next, memory =>
    let (identifier, memory) := memory.propertyIdentifier raw
    (next identifier).run memory
  | .callPath operationId next, memory =>
    let (path, memory) := memory.callPath operationId
    (next path).run memory
  | .note notice next, memory =>
    let outcome := next.run memory
    { outcome with notices := notice :: outcome.notices }

/-! ### Results of steps -/

@[simp] theorem result_pure (product : Product) :
    (pure product : Assembly Product).result = .ok product := rfl

@[simp] theorem notices_pure (product : Product) :
    (pure product : Assembly Product).notices = [] := rfl

@[simp] theorem result_askType (raw : String) :
    (askType raw).result = .ok (Naming.typeIdentifier raw) := rfl

@[simp] theorem result_askProperty (raw : String) :
    (askProperty raw).result = .ok (Naming.propertyIdentifier raw) := rfl

@[simp] theorem result_askPath (operationId : String) :
    (askPath operationId).result = .ok (Naming.callPath operationId) := rfl

@[simp] theorem result_leave (notice : Notice) : (leave notice).result = .ok () := rfl

@[simp] theorem result_ofExcept (outcome : Except Json.Unwritable Product) :
    (ofExcept outcome).result = outcome := by
  cases outcome <;> rfl

/-- The result of two steps is the result of the second on the product of the first. -/
@[simp] theorem result_bind (first : Assembly Product) (second : Product → Assembly Further) :
    (first >>= second).result = first.result.bind fun product => (second product).result := by
  show (first.andThen second).result = _
  induction first with
  | done product => rfl
  | failed cause => rfl
  | typeIdentifier raw next inductionHypothesis => exact inductionHypothesis _
  | propertyIdentifier raw next inductionHypothesis => exact inductionHypothesis _
  | callPath operationId next inductionHypothesis => exact inductionHypothesis _
  | note notice next inductionHypothesis => exact inductionHypothesis

/-- The notes of two steps are those of the first, followed by those of the second where the
first does not fail. -/
@[simp] theorem notices_bind (first : Assembly Product) (second : Product → Assembly Further) :
    (first >>= second).notices = first.notices ++
      match first.result with
      | .ok product => (second product).notices
      | .error _ => [] := by
  show (first.andThen second).notices = _
  induction first with
  | done product => rfl
  | failed cause => rfl
  | typeIdentifier raw next inductionHypothesis => exact inductionHypothesis _
  | propertyIdentifier raw next inductionHypothesis => exact inductionHypothesis _
  | callPath operationId next inductionHypothesis => exact inductionHypothesis _
  | note notice next inductionHypothesis =>
    exact congrArg (notice :: ·) inductionHypothesis

/-! ### Running on a right memory -/

/-- On a right memory a run has the result and the notes of the computation itself, and leaves a
right memory. -/
theorem run_of_right (computation : Assembly Product) {memory : Naming.Memory}
    (right : memory.Right) :
    (computation.run memory).result = computation.result ∧
      (computation.run memory).notices = computation.notices ∧
      (computation.run memory).memory.Right := by
  induction computation generalizing memory with
  | done product => exact ⟨rfl, rfl, right⟩
  | failed cause => exact ⟨rfl, rfl, right⟩
  | typeIdentifier raw next inductionHypothesis =>
    have after := inductionHypothesis (Naming.typeIdentifier raw)
      (Naming.Memory.right_typeIdentifier right raw)
    simpa only [run, result, notices, Naming.Memory.fst_typeIdentifier right] using after
  | propertyIdentifier raw next inductionHypothesis =>
    have after := inductionHypothesis (Naming.propertyIdentifier raw)
      (Naming.Memory.right_propertyIdentifier right raw)
    simpa only [run, result, notices, Naming.Memory.fst_propertyIdentifier right] using after
  | callPath operationId next inductionHypothesis =>
    have after := inductionHypothesis (Naming.callPath operationId)
      (Naming.Memory.right_callPath right operationId)
    simpa only [run, result, notices, Naming.Memory.fst_callPath right] using after
  | note notice next inductionHypothesis =>
    obtain ⟨sameResult, sameNotices, rightAfter⟩ := inductionHypothesis right
    exact ⟨sameResult, congrArg (notice :: ·) sameNotices, rightAfter⟩

end Assembly

end ClientModel
