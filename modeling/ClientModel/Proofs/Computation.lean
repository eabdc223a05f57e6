/-
This file says how the computations that build a model compose: when two steps succeed one after
the other, what their product is, and which notes they leave. The last statements say of what parts
a call is put together. Later files name the steps of a computation by these statements and do not
open it.
-/

import ClientModel.Assembly.Calls

namespace ClientModel.Assembly

variable {Product Further : Type}

/-! ### Computations that succeed -/

/-- A computation that has a product, whatever it notes on the way. -/
def Succeeds (computation : Assembly Product) : Prop :=
  ∃ product, computation.result = .ok product

theorem Succeeds.pure (product : Product) : Succeeds (Pure.pure product) := ⟨product, rfl⟩

theorem Succeeds.askType (raw : String) : Succeeds (Assembly.askType raw) := ⟨_, rfl⟩

theorem Succeeds.askProperty (raw : String) : Succeeds (Assembly.askProperty raw) := ⟨_, rfl⟩

theorem Succeeds.askPath (operationId : String) : Succeeds (Assembly.askPath operationId) :=
  ⟨_, rfl⟩

theorem Succeeds.leave (notice : Notice) : Succeeds (Assembly.leave notice) := ⟨_, rfl⟩

theorem Succeeds.leaveAll (notices : List Notice) : Succeeds (Assembly.leaveAll notices) := by
  induction notices with
  | nil => exact .pure ()
  | cons notice rest inductionHypothesis => exact inductionHypothesis

theorem Succeeds.bind {first : Assembly Product} {second : Product → Assembly Further}
    (start : first.Succeeds) (further : ∀ product, (second product).Succeeds) :
    (first >>= second).Succeeds := by
  obtain ⟨product, started⟩ := start
  obtain ⟨result, finished⟩ := further product
  exact ⟨result, by rw [result_bind, started]; exact finished⟩

/-! ### Products -/

/-- Two steps succeed if the first does and the second does on its product. -/
theorem result_bind_eq_ok_iff (first : Assembly Product) (second : Product → Assembly Further)
    (further : Further) :
    (first >>= second).result = .ok further ↔
      ∃ product, first.result = .ok product ∧ (second product).result = .ok further := by
  rw [result_bind]
  cases first.result <;> simp [Except.bind]

/-- A step whose product goes into a whole. -/
theorem exists_of_result_bind_pure {first : Assembly Product} {enclose : Product → Further}
    {whole : Further} (made : (first >>= fun part => pure (enclose part)).result = .ok whole) :
    ∃ part, first.result = .ok part ∧ enclose part = whole := by
  obtain ⟨part, started, same⟩ := (result_bind_eq_ok_iff _ _ _).1 made
  exact ⟨part, started, Except.ok.inj same⟩

@[simp] theorem result_leaveAll (notices : List Notice) : (leaveAll notices).result = .ok () := by
  induction notices with
  | nil => rfl
  | cons notice rest inductionHypothesis => exact inductionHypothesis

@[simp] theorem notices_leaveAll (notices : List Notice) :
    (leaveAll notices).notices = notices := by
  induction notices with
  | nil => rfl
  | cons notice rest inductionHypothesis => exact congrArg (notice :: ·) inductionHypothesis

/-! ### Notes -/

/-- A computation that leaves only notes of a kind. -/
def NotesOnly (kind : Notice → Prop) (computation : Assembly Product) : Prop :=
  ∀ notice ∈ computation.notices, kind notice

variable {kind : Notice → Prop}

theorem NotesOnly.pure (product : Product) : NotesOnly kind (Pure.pure product) :=
  fun _ member => absurd member List.not_mem_nil

theorem NotesOnly.askType (raw : String) : NotesOnly kind (Assembly.askType raw) :=
  fun _ member => absurd member List.not_mem_nil

theorem NotesOnly.askProperty (raw : String) : NotesOnly kind (Assembly.askProperty raw) :=
  fun _ member => absurd member List.not_mem_nil

theorem NotesOnly.askPath (operationId : String) : NotesOnly kind (Assembly.askPath operationId) :=
  fun _ member => absurd member List.not_mem_nil

theorem NotesOnly.ofExcept (outcome : Except Json.Unwritable Product) :
    NotesOnly kind (Assembly.ofExcept outcome) := by
  cases outcome <;> exact fun _ member => absurd member List.not_mem_nil

theorem NotesOnly.leave {notice : Notice} (right : kind notice) :
    NotesOnly kind (Assembly.leave notice) :=
  List.forall_mem_singleton.2 right

theorem NotesOnly.leaveAll {notices : List Notice} (right : ∀ notice ∈ notices, kind notice) :
    NotesOnly kind (Assembly.leaveAll notices) := by
  rw [NotesOnly, notices_leaveAll]
  exact right

theorem NotesOnly.bind {first : Assembly Product} {second : Product → Assembly Further}
    (start : NotesOnly kind first) (further : ∀ product, NotesOnly kind (second product)) :
    NotesOnly kind (first >>= second) := by
  intro notice member
  rw [notices_bind] at member
  rcases List.mem_append.1 member with early | late
  · exact start notice early
  · split at late
    · exact further _ notice late
    · exact absurd late List.not_mem_nil

/-! ### Calls -/

/-- What an operation becomes, given its arguments, its body and the type of its responses. -/
def called (operation : Operation) (arguments : List Argument) (body : Option BodyArgument)
    (responseType : TypeExpr) : Call where
  verb := operation.verb
  urlTemplate := operation.path
  operationId := operation.effectiveId
  methodName := (Naming.callPath operation.effectiveId).methodName
  namespacePath := (Naming.callPath operation.effectiveId).segments
  arguments
  body
  responseType
  description := describeOperation operation
  tags := operation.tags
  deprecated := operation.deprecated

/-- A call is put together from arguments, a body and the type of its responses. -/
theorem result_callOf (operation : Operation) :
    (callOf operation).result =
      (argumentsOf operation.effectiveId operation.parameters).result >>= fun arguments =>
        (bodyOf operation).result >>= fun body =>
          (responseTypeOf operation).result.map (called operation arguments body) := by
  unfold callOf
  simp only [result_bind, result_askPath]
  rfl

theorem result_callOf_eq_ok_iff (operation : Operation) (call : Call) :
    (callOf operation).result = .ok call ↔
      ∃ arguments body responseType,
        (argumentsOf operation.effectiveId operation.parameters).result = .ok arguments ∧
        (bodyOf operation).result = .ok body ∧
        (responseTypeOf operation).result = .ok responseType ∧
        called operation arguments body responseType = call := by
  rw [result_callOf]
  cases (argumentsOf operation.effectiveId operation.parameters).result <;>
    cases (bodyOf operation).result <;> cases (responseTypeOf operation).result <;>
      simp [bind, Except.bind, Except.map]

end ClientModel.Assembly
