/-
This file proves that remembering identifiers changes no answer. A memory is asked one question
after another and may be told to forget in between. What it holds is known at every moment: the
raw names it was asked for since it last forgot, each once in the order of first asking, with what
a fresh memory makes of them. The main statement adds what follows for whoever builds types,
declarations and models on one memory: every step ends as it does on a fresh one.
-/

import ClientModel.Assembly.Model
import ClientModel.Proofs.Placement

namespace ClientModel

namespace Naming

/-! ### Questions and answers -/

/-- What a memory is asked for. -/
inductive Question where
  | type (raw : String)
  | property (raw : String)
  | method (raw : String)
  | path (operationId : String)
  /-- To forget everything. -/
  | clear
  deriving DecidableEq, Repr

/-- What a memory answers. -/
inductive Answer where
  | identifier (text : String)
  | path (found : CallPath)
  | cleared
  deriving DecidableEq, Repr

namespace Memory

/-- The answer to one question, and the memory afterwards. -/
def answer (memory : Memory) : Question → Answer × Memory
  | .type raw =>
    let (identifier, memory) := memory.typeIdentifier raw
    (.identifier identifier, memory)
  | .property raw =>
    let (identifier, memory) := memory.propertyIdentifier raw
    (.identifier identifier, memory)
  | .method raw =>
    let (identifier, memory) := memory.methodIdentifier raw
    (.identifier identifier, memory)
  | .path operationId =>
    let (path, memory) := memory.callPath operationId
    (.path path, memory)
  | .clear => (.cleared, empty)

/-- The answers to questions that are asked one after another, and the memory afterwards. -/
def answers (memory : Memory) : List Question → List Answer × Memory
  | [] => ([], memory)
  | question :: rest =>
    let (found, memory) := memory.answer question
    let (others, memory) := memory.answers rest
    (found :: others, memory)

theorem answers_append (memory : Memory) (questions further : List Question) :
    memory.answers (questions ++ further) =
      ((memory.answers questions).1 ++ ((memory.answers questions).2.answers further).1,
        ((memory.answers questions).2.answers further).2) := by
  induction questions generalizing memory with
  | nil => rfl
  | cons question rest inductionHypothesis =>
    simp only [List.cons_append, answers, inductionHypothesis]

/-! ### Answers of right memories -/

/-- A right memory answers as a fresh one. -/
theorem fst_answer {memory : Memory} (right : memory.Right) (question : Question) :
    (memory.answer question).1 = (empty.answer question).1 := by
  cases question with
  | type raw =>
    exact congrArg Answer.identifier
      ((fst_typeIdentifier right raw).trans (fst_typeIdentifier right_empty raw).symm)
  | property raw =>
    exact congrArg Answer.identifier
      ((fst_propertyIdentifier right raw).trans (fst_propertyIdentifier right_empty raw).symm)
  | method raw =>
    exact congrArg Answer.identifier
      ((fst_methodIdentifier right raw).trans (fst_methodIdentifier right_empty raw).symm)
  | path operationId =>
    exact congrArg Answer.path
      ((fst_callPath right operationId).trans (fst_callPath right_empty operationId).symm)
  | clear => rfl

/-- A right memory stays right, whatever it is asked. -/
theorem right_answer {memory : Memory} (right : memory.Right) (question : Question) :
    (memory.answer question).2.Right := by
  cases question with
  | type raw => exact right_typeIdentifier right raw
  | property raw => exact right_propertyIdentifier right raw
  | method raw => exact right_methodIdentifier right raw
  | path operationId => exact right_callPath right operationId
  | clear => exact right_empty

theorem fst_answers {memory : Memory} (right : memory.Right) (questions : List Question) :
    (memory.answers questions).1 = questions.map fun question => (empty.answer question).1 := by
  induction questions generalizing memory with
  | nil => rfl
  | cons question rest inductionHypothesis =>
    exact congrArg₂ List.cons (fst_answer right question)
      (inductionHypothesis (right_answer right question))

end Memory

/-! ### What was asked -/

/-- The questions since a memory last forgot. -/
def sinceClear (questions : List Question) : List Question :=
  (questions.reverse.takeWhile (· != .clear)).reverse

theorem sinceClear_append_clear (questions : List Question) :
    sinceClear (questions ++ [.clear]) = [] := by
  simp [sinceClear]

theorem sinceClear_append_of_ne {question : Question} (other : question ≠ .clear)
    (questions : List Question) :
    sinceClear (questions ++ [question]) = sinceClear questions ++ [question] := by
  simp [sinceClear, other]

/-- The names whose type identifiers were asked for. -/
def typeArguments (questions : List Question) : List String :=
  questions.filterMap fun
    | .type raw => some raw
    | _ => none

/-- The names of properties whose accessors were asked for. -/
def propertyArguments (questions : List Question) : List String :=
  questions.filterMap fun
    | .property raw => some raw
    | _ => none

/-- The texts whose method identifiers were asked for: by themselves, or as what remains of an
operation id for the name of its method. -/
def methodArguments (questions : List Question) : List String :=
  questions.filterMap fun
    | .method raw => some raw
    | .path operationId => some (splitCall operationId).2
    | _ => none

/-- The operation ids whose paths were asked for. -/
def pathArguments (questions : List Question) : List String :=
  questions.filterMap fun
    | .path operationId => some operationId
    | _ => none

/-! ### What a memory holds -/

section

variable {Made : Type} (transform : String → Made)

/-- Names with what becomes of them, each once in the order of first asking. -/
def remembered (arguments : List String) : List (String × Made) :=
  arguments.eraseDups.map fun raw => (raw, transform raw)

/-- What is remembered is found again, and nothing else is. -/
theorem get?_remembered (arguments : List String) (raw : String) :
    Ordered.get? raw (remembered transform arguments) =
      if raw ∈ arguments then some (transform raw) else none := by
  have keys : (remembered transform arguments).map Prod.fst = arguments.eraseDups := by
    simp [remembered, Function.comp_def]
  split
  · next asked =>
    refine Ordered.get?_of_mem (keys ▸ Placement.nodup_eraseDups arguments) ?_
    exact List.mem_map_of_mem (List.mem_eraseDups.2 asked)
  · next unasked =>
    refine Option.eq_none_iff_forall_ne_some.2 fun item found => unasked ?_
    have member := List.mem_map_of_mem (f := Prod.fst) (Ordered.mem_of_get? found)
    rw [keys] at member
    exact List.mem_eraseDups.1 member

/-- Entries after they were asked for a name: it is added where it is new. -/
def recalled (raw : String) (entries : List (String × Made)) : List (String × Made) :=
  match Ordered.get? raw entries with
  | some _ => entries
  | none => entries ++ [(raw, transform raw)]

/-- One more question is answered from what is remembered, or else remembered at the end. -/
theorem remembered_append_singleton (arguments : List String) (raw : String) :
    remembered transform (arguments ++ [raw]) =
      recalled transform raw (remembered transform arguments) := by
  rw [recalled, get?_remembered, remembered, Placement.eraseDups_append_singleton]
  by_cases asked : raw ∈ arguments <;> simp [asked, remembered]

/-- A name that is remembered is not added. -/
theorem recalled_of_mem {arguments : List String} {raw : String} (asked : raw ∈ arguments) :
    recalled transform raw (remembered transform arguments) = remembered transform arguments := by
  rw [recalled, get?_remembered, if_pos asked]

end

namespace Memory

/-- The memory of what was asked for in these questions, and of nothing else. -/
def holding (questions : List Question) : Memory where
  types := remembered Naming.typeIdentifier (typeArguments questions)
  properties := remembered Naming.propertyIdentifier (propertyArguments questions)
  methods := remembered Naming.methodIdentifier (methodArguments questions)
  paths := remembered Naming.callPath (pathArguments questions)

theorem right_holding (questions : List Question) : (holding questions).Right := by
  have each {Made : Type} (transform : String → Made) (arguments : List String) :
      ∀ entry ∈ remembered transform arguments, entry.2 = transform entry.1 := by
    intro entry member
    obtain ⟨raw, _, rfl⟩ := List.mem_map.1 member
    rfl
  exact ⟨each _ _, each _ _, each _ _, each _ _⟩

theorem snd_typeIdentifier (memory : Memory) (raw : String) :
    (memory.typeIdentifier raw).2 =
      { memory with types := recalled Naming.typeIdentifier raw memory.types } := by
  unfold typeIdentifier recalled
  cases Ordered.get? raw memory.types <;> rfl

theorem snd_propertyIdentifier (memory : Memory) (raw : String) :
    (memory.propertyIdentifier raw).2 =
      { memory with properties := recalled Naming.propertyIdentifier raw memory.properties } := by
  unfold propertyIdentifier recalled
  cases Ordered.get? raw memory.properties <;> rfl

theorem snd_methodIdentifier (memory : Memory) (raw : String) :
    (memory.methodIdentifier raw).2 =
      { memory with methods := recalled Naming.methodIdentifier raw memory.methods } := by
  unfold methodIdentifier recalled
  cases Ordered.get? raw memory.methods <;> rfl

/-- The text that remains of an operation id for its method is asked for with the path. -/
theorem mem_methodArguments_of_mem {questions : List Question} {operationId : String}
    (asked : operationId ∈ pathArguments questions) :
    (splitCall operationId).2 ∈ methodArguments questions := by
  obtain ⟨question, member, same⟩ := List.mem_filterMap.1 asked
  cases question with
  | path other =>
    obtain rfl := Option.some.inj same
    exact List.mem_filterMap.2 ⟨_, member, rfl⟩
  | type _ | property _ | method _ | clear => cases same

/-- A path that is remembered was asked for together with the text that remains for its method, so
nothing is lost by not asking for that text again. -/
theorem snd_callPath_holding (questions : List Question) (operationId : String) :
    ((holding questions).callPath operationId).2 =
      { holding questions with
        methods := recalled Naming.methodIdentifier (splitCall operationId).2
          (holding questions).methods
        paths := recalled Naming.callPath operationId (holding questions).paths } := by
  unfold callPath
  split
  · next path found =>
    have asked : operationId ∈ pathArguments questions := by
      by_contra unasked
      rw [holding, get?_remembered, if_neg unasked] at found
      cases found
    simp only [holding, recalled_of_mem _ asked,
      recalled_of_mem _ (mem_methodArguments_of_mem asked)]
  · next missing =>
    have path : (⟨(splitCall operationId).1, ((holding questions).methodIdentifier
        (splitCall operationId).2).1⟩ : CallPath) = Naming.callPath operationId := by
      rw [fst_methodIdentifier (right_holding questions)]
      rfl
    simp only [path, snd_methodIdentifier, recalled, missing]

/-- After one more question that is not to forget, a memory holds what was asked before and what
is asked now. -/
theorem snd_answer_holding {question : Question} (other : question ≠ .clear)
    (questions : List Question) :
    ((holding questions).answer question).2 = holding (questions ++ [question]) := by
  cases question with
  | type raw =>
    show ((holding questions).typeIdentifier raw).2 = _
    rw [snd_typeIdentifier]
    simp [holding, typeArguments, propertyArguments, methodArguments, pathArguments,
      remembered_append_singleton]
  | property raw =>
    show ((holding questions).propertyIdentifier raw).2 = _
    rw [snd_propertyIdentifier]
    simp [holding, typeArguments, propertyArguments, methodArguments, pathArguments,
      remembered_append_singleton]
  | method raw =>
    show ((holding questions).methodIdentifier raw).2 = _
    rw [snd_methodIdentifier]
    simp [holding, typeArguments, propertyArguments, methodArguments, pathArguments,
      remembered_append_singleton]
  | path operationId =>
    show ((holding questions).callPath operationId).2 = _
    rw [snd_callPath_holding]
    simp [holding, typeArguments, propertyArguments, methodArguments, pathArguments,
      remembered_append_singleton]
  | clear => exact absurd rfl other

/-- After questions one after another a memory holds what was asked since it last forgot. -/
theorem snd_answers_empty (questions : List Question) :
    (empty.answers questions).2 = holding (sinceClear questions) := by
  induction questions using List.reverseRecOn with
  | nil => rfl
  | append_singleton rest question inductionHypothesis =>
    rw [answers_append]
    show ((empty.answers rest).2.answer question).2 = _
    rw [inductionHypothesis]
    by_cases forgets : question = .clear
    · rw [forgets, sinceClear_append_clear]
      rfl
    · rw [sinceClear_append_of_ne forgets, snd_answer_holding forgets]

end Memory

end Naming

/-! ### Building on one memory -/

namespace Assembly

/-- What is asked of whoever builds types, declarations and models on one memory. -/
inductive Task where
  | ask (question : Naming.Question)
  | resolve (schema : Option SchemaNode)
  | declare (name : String) (schema : SchemaNode)
  | assemble (document : Document) (operationIds : Option (List String))

/-- What a task gives. -/
inductive Built where
  | answer (found : Naming.Answer)
  | type (expression : TypeExpr)
  | declaration (made : Declaration)
  | model (made : Model)

/-- An outcome with another product. -/
def Outcome.map {Product Further : Type} (change : Product → Further)
    (outcome : Outcome Product) : Outcome Further :=
  ⟨outcome.result.map change, outcome.notices, outcome.memory⟩

/-- Does a task on a memory. -/
def Task.run (memory : Naming.Memory) : Task → Outcome Built
  | .ask question =>
    let (found, memory) := memory.answer question
    ⟨.ok (.answer found), [], memory⟩
  | .resolve schema => ((resolveOptional schema).run memory).map .type
  | .declare name schema => ((declarationOf name schema).run memory).map .declaration
  | .assemble document operationIds => ((modelOf document operationIds).run memory).map .model

/-- What is seen of an outcome: its product or its failure, and its notes. -/
def Outcome.seen {Product : Type} (outcome : Outcome Product) :
    Except Json.Unwritable Product × List Notice :=
  (outcome.result, outcome.notices)

/-- What is seen of tasks that are done one after another, each on the memory that the one before
it left. -/
def session (memory : Naming.Memory) :
    List Task → List (Except Json.Unwritable Built × List Notice)
  | [] => []
  | task :: rest => (task.run memory).seen :: session (task.run memory).memory rest

/-- A right memory shows what a fresh one does, and stays right. -/
theorem seen_run_of_right {Product : Type} (computation : Assembly Product)
    (change : Product → Built) {memory : Naming.Memory} (right : memory.Right) :
    ((computation.run memory).map change).seen =
        ((computation.run .empty).map change).seen ∧
      ((computation.run memory).map change).memory.Right := by
  obtain ⟨result, notices, rightAfter⟩ := run_of_right computation right
  obtain ⟨freshResult, freshNotices, _⟩ := run_of_right computation Naming.Memory.right_empty
  refine ⟨?_, rightAfter⟩
  simp only [Outcome.seen, Outcome.map, result, notices, freshResult, freshNotices]

theorem Task.seen_run {memory : Naming.Memory} (right : memory.Right) (task : Task) :
    (task.run memory).seen = (task.run .empty).seen ∧ (task.run memory).memory.Right := by
  cases task with
  | ask question =>
    exact ⟨congrArg (fun found => (Except.ok (Built.answer found), []))
      (Naming.Memory.fst_answer right question), Naming.Memory.right_answer right question⟩
  | resolve schema => exact seen_run_of_right _ _ right
  | declare name schema => exact seen_run_of_right _ _ right
  | assemble document operationIds => exact seen_run_of_right _ _ right

theorem session_of_right {memory : Naming.Memory} (right : memory.Right) (tasks : List Task) :
    session memory tasks = tasks.map fun task => (task.run .empty).seen := by
  induction tasks generalizing memory with
  | nil => rfl
  | cons task rest inductionHypothesis =>
    obtain ⟨same, rightAfter⟩ := task.seen_run right
    rw [session, same, inductionHypothesis rightAfter, List.map_cons]

/-- Questions that are put to one memory are answered as a fresh one answers each. At every moment
the memory holds exactly the raw names it was asked for since it last forgot, with what becomes of
them; a method identifier is also asked for with each path, for what remains of the operation id.
Tasks that are done on that memory, one after another and among further questions, end as each does
on a fresh one: with the same product or the same failure, and the same notes. -/
theorem answers_session_afresh (questions : List Naming.Question) (tasks : List Task) :
    (Naming.Memory.empty.answers questions).1 =
        questions.map (fun question => (Naming.Memory.empty.answer question).1) ∧
      (Naming.Memory.empty.answers questions).2 =
        .holding (Naming.sinceClear questions) ∧
      (∀ raw,
        Ordered.get? raw (Naming.Memory.empty.answers questions).2.types =
            (if raw ∈ Naming.typeArguments (Naming.sinceClear questions) then
              some (Naming.typeIdentifier raw) else none) ∧
          Ordered.get? raw (Naming.Memory.empty.answers questions).2.properties =
            (if raw ∈ Naming.propertyArguments (Naming.sinceClear questions) then
              some (Naming.propertyIdentifier raw) else none) ∧
          Ordered.get? raw (Naming.Memory.empty.answers questions).2.methods =
            (if raw ∈ Naming.methodArguments (Naming.sinceClear questions) then
              some (Naming.methodIdentifier raw) else none) ∧
          Ordered.get? raw (Naming.Memory.empty.answers questions).2.paths =
            (if raw ∈ Naming.pathArguments (Naming.sinceClear questions) then
              some (Naming.callPath raw) else none)) ∧
      session (Naming.Memory.empty.answers questions).2 tasks =
        tasks.map (fun task => (task.run .empty).seen) := by
  have held := Naming.Memory.snd_answers_empty questions
  refine ⟨Naming.Memory.fst_answers Naming.Memory.right_empty questions, held, fun raw => ?_, ?_⟩
  · rw [held]
    exact ⟨Naming.get?_remembered _ _ raw, Naming.get?_remembered _ _ raw,
      Naming.get?_remembered _ _ raw, Naming.get?_remembered _ _ raw⟩
  · rw [held]
    exact session_of_right (Naming.Memory.right_holding _) tasks

end Assembly

end ClientModel
