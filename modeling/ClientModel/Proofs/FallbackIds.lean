/-
This file follows the operations without an id. Such an operation goes by its verb and its path with
an underscore between them. The underscore stands in front of every separator of the path, so no
namespace is taken off, whatever the path is, and the method name goes on from the verb. The verb
has no underscore itself, so the made up id tells where the verb ends. The main statement is that
these operations stay at the root, each under a method name that starts with its verb, and that an
id that was made up for one operation picks no other operation without an id.
-/

import ClientModel.Proofs.ListedOperations
import ClientModel.Proofs.MethodNames
import ClientModel.Proofs.NamespaceSplitting

namespace ClientModel

namespace Naming

/-! ### Behind an underscore -/

/-- A separator behind the first underscore takes nothing off: the part in front of it is not
clean. -/
theorem isSettled_of_mark {front : List Char} (unslashed : '/' ∉ front) (undotted : '.' ∉ front)
    (back : List Char) : IsSettled (front ++ '_' :: back) := by
  intro separator next
  obtain ⟨member, kind⟩ := nextSeparator?_eq_some next
  have free : separator ∉ front ++ ['_'] := by
    rcases kind with rfl | ⟨rfl, _⟩ <;> simpa
  have split : front ++ '_' :: back = (front ++ ['_']) ++ back := by simp
  rw [split] at member ⊢
  obtain ⟨part, rest, same, apart⟩ :=
    List.eq_append_cons_of_mem ((List.mem_append.1 member).resolve_left free)
  have marked : '_' ∈ (front ++ ['_']) ++ part := by simp
  have free' : separator ∉ (front ++ ['_']) ++ part := by
    rw [List.mem_append, not_or]
    exact ⟨free, apart⟩
  rw [same, ← List.append_assoc, Text.takeWhile_append_separator free', ← Bool.not_eq_true]
  exact fun clean => notMem_of_isCleanSegment clean (by decide) (by decide) marked

/-! ### Behind a word in lower case -/

section

variable {word : List Char}

/-- A pass that keeps every character but underscores keeps a word without underscores. -/
theorem append_of_keeps {pass : List Char → List Char}
    (keeps : ∀ character, character ≠ '_' → ∀ rest,
      pass (character :: rest) = character :: pass rest)
    (unmarked : '_' ∉ word) (rest : List Char) : pass (word ++ rest) = word ++ pass rest := by
  induction word with
  | nil => rfl
  | cons character others inductionHypothesis =>
    rw [List.mem_cons, not_or] at unmarked
    rw [List.cons_append, keeps _ (Ne.symm unmarked.1), inductionHypothesis unmarked.2,
      List.cons_append]

theorem collapseRuns_append (unmarked : '_' ∉ word) (rest : List Char) :
    collapseRuns (word ++ rest) = word ++ collapseRuns rest := by
  refine append_of_keeps (fun character other rest => ?_) unmarked rest
  cases rest with
  | nil => rfl
  | cons next rest => simp [collapseRuns, other]

theorem raiseAfterMarks_append (unmarked : '_' ∉ word) (rest : List Char) :
    raiseAfterMarks (word ++ rest) = word ++ raiseAfterMarks rest := by
  refine append_of_keeps (fun character other rest => ?_) unmarked rest
  cases rest with
  | nil => rfl
  | cons next rest => simp [raiseAfterMarks, other]

/-- The word stays where underscores are removed from both ends; they are removed behind it only. -/
theorem prefix_withoutOuterMarks (unmarked : '_' ∉ word) (rest : List Char) :
    word <+: withoutOuterMarks (word ++ rest) := by
  cases word with
  | nil => exact List.nil_prefix
  | cons first others =>
    have starts : ((first :: others) ++ rest).head? ≠ some '_' := by
      simpa using fun same : first = '_' => unmarked (same ▸ List.mem_cons_self)
    have ends : (first :: others).reverse.head? ≠ some '_' := fun same =>
      unmarked (List.mem_reverse.1 (List.mem_of_head? same))
    rw [withoutOuterMarks, dropWhile_marks_of_head? starts, List.reverse_append,
      List.dropWhile_append]
    split
    · simp only [dropWhile_marks_of_head? ends, List.reverse_reverse, List.prefix_rfl]
    · rw [List.reverse_append, List.reverse_reverse]
      exact List.prefix_append _ _

/-- A method name starts with the word in lower case with which its text starts. -/
theorem prefix_methodCharacters (lower : ∀ character ∈ word, isLowerLetter character = true)
    (rest : List Char) : word <+: methodCharacters (word ++ rest) := by
  have unmarked : '_' ∉ word := fun member => absurd (lower _ member) (by decide)
  have kept : markSeparators word = word := by
    refine (List.map_congr_left fun character member => ?_).trans (List.map_id word)
    exact if_pos (isAlphanumeric_of_isLowerLetter (lower character member))
  obtain ⟨inner, same⟩ := prefix_withoutOuterMarks unmarked (collapseRuns (markSeparators rest))
  have marks : markSeparators (word ++ rest) = word ++ markSeparators rest := by
    rw [markSeparators, List.map_append, ← markSeparators, ← markSeparators, kept]
  rw [methodCharacters, marks, collapseRuns_append unmarked, ← same,
    raiseAfterMarks_append unmarked]
  cases word with
  | nil => exact List.nil_prefix
  | cons first others =>
    have unraised : isUpperLetter first = false := by
      have bounds := (isLowerLetter_iff first).1 (lower first List.mem_cons_self)
      rw [Bool.eq_false_iff, Ne, isUpperLetter_iff]
      omega
    rw [List.cons_append, lowerFirst, lowerLetter_of_not_isUpperLetter unraised]
    exact List.prefix_append (first :: others) _

end

end Naming

/-! ### Made up ids -/

theorem Verb.isLowerLetter_of_mem_name (verb : Verb) :
    ∀ character ∈ verb.name.toList, Naming.isLowerLetter character = true := by
  refine List.all_eq_true.1 ?_
  cases verb <;> decide

theorem Verb.notMem_name (verb : Verb) {character : Char}
    (other : Naming.isLowerLetter character = false) : character ∉ verb.name.toList := by
  intro member
  rw [verb.isLowerLetter_of_mem_name character member] at other
  cases other

theorem Verb.toList_name_ne_nil (verb : Verb) : verb.name.toList ≠ [] := by
  cases verb <;> decide

theorem Verb.name_injective : Function.Injective Verb.name := by
  intro verb other same
  cases verb <;> cases other <;> first | rfl | exact absurd same (by decide)

/-- The id that is made up for an operation without one. -/
def fallbackId (verb : Verb) (path : String) : String := verb.name ++ "_" ++ path

theorem toList_fallbackId (verb : Verb) (path : String) :
    (fallbackId verb path).toList = verb.name.toList ++ '_' :: path.toList := by
  simp [fallbackId]

/-- A made up id tells the verb and the path for which it was made up. -/
theorem fallbackId_eq_iff (verb other : Verb) (path path' : String) :
    fallbackId verb path = fallbackId other path' ↔ verb = other ∧ path = path' := by
  refine ⟨fun same => ?_, fun ⟨sameVerb, samePath⟩ => sameVerb ▸ samePath ▸ rfl⟩
  have unmarked (verb : Verb) : '_' ∉ verb.name.toList := verb.notMem_name (by decide)
  have characters := congrArg String.toList same
  rw [toList_fallbackId, toList_fallbackId] at characters
  have front := congrArg (List.takeWhile (· != '_')) characters
  rw [Text.takeWhile_append_separator (unmarked verb),
    Text.takeWhile_append_separator (unmarked other)] at front
  rw [front] at characters
  have back := (List.cons.inj (List.append_cancel_left characters)).2
  exact ⟨Verb.name_injective (String.toList_injective front), String.toList_injective back⟩

/-- No namespace is taken off a made up id. -/
theorem callPath_fallbackId (verb : Verb) (path : String) :
    Naming.callPath (fallbackId verb path) =
      ⟨[], Naming.methodIdentifier (fallbackId verb path)⟩ := by
  have settled : Naming.IsSettled (fallbackId verb path).toList := by
    rw [toList_fallbackId]
    exact Naming.isSettled_of_mark (verb.notMem_name (by decide)) (verb.notMem_name (by decide)) _
  rw [Naming.callPath, Naming.splitCall_of_isSettled settled]

/-- The method name for a made up id starts with the verb. -/
theorem prefix_methodIdentifier_fallbackId (verb : Verb) (path : String) :
    verb.name.toList <+: (Naming.methodIdentifier (fallbackId verb path)).toList := by
  rw [Naming.methodIdentifier, String.toList_ofList, toList_fallbackId]
  exact Naming.prefix_methodCharacters verb.isLowerLetter_of_mem_name _

/-! ### Operations without an id -/

/-- An operation has no id: none is given, or an empty one. -/
def Operation.IsUnnamed (operation : Operation) : Prop := operation.operationId.getD "" = ""

instance (operation : Operation) : Decidable operation.IsUnnamed :=
  inferInstanceAs (Decidable (_ = _))

theorem Operation.IsUnnamed.effectiveId {operation : Operation} (unnamed : operation.IsUnnamed) :
    operation.effectiveId = fallbackId operation.verb operation.path := by
  unfold Operation.IsUnnamed at unnamed
  unfold Operation.effectiveId
  split
  · next operationId given =>
    rw [given, Option.getD_some] at unnamed
    rw [unnamed]
    rfl
  · rfl

namespace Assembly

/-- Where the id made up for an operation is wanted, no other operation without an id is wanted
because of it. -/
theorem isWanted_cons_iff {operation other : Operation} (unnamed : operation.IsUnnamed)
    (unnamed' : other.IsUnnamed) (operationIds : List String) :
    isWanted (some (operation.effectiveId :: operationIds)) other = true ↔
      operation.verb = other.verb ∧ operation.path = other.path ∨
        isWanted (some operationIds) other = true := by
  rw [isWanted, isWanted, List.contains_cons, Bool.or_eq_true, beq_iff_eq, eq_comm,
    unnamed.effectiveId, unnamed'.effectiveId, fallbackId_eq_iff]

/-- An operation whose path has no namespaces leaves a call of its method name at the root. -/
theorem exists_call_at_root {document : Document} {operationIds : Option (List String)}
    {root : Namespace} (placed : (namespaceRoot document operationIds).result = .ok root)
    {operation : Operation} (member : operation ∈ document.operations)
    (wanted : isWanted operationIds operation = true) (atRoot : operation.callPath.segments = []) :
    ∃ call ∈ root.calls, call.methodName = operation.callPath.methodName := by
  have isTree := isTreeOf_of_namespaceRoot placed
  have met : operation.callPath ∈
      ((document.operations.filter (isWanted operationIds)).map Operation.callPath).eraseDups :=
    List.mem_eraseDups.2 (List.mem_map_of_mem (List.mem_filter.2 ⟨member, wanted⟩))
  obtain ⟨call, walked, path⟩ := List.mem_map.1 (isTree.paths.mem_iff.2 met)
  have segments : call.namespacePath = [] := (congrArg Naming.CallPath.segments path).trans atRoot
  exact ⟨call, (isTree.calls [] root rfl call).2 ⟨walked, segments⟩,
    congrArg Naming.CallPath.methodName path⟩

/-- An operation without an id stays at the root, whatever its path is: no namespace leads to its
call, and the name of its method starts with its verb. The id that is made up for it is that of no
other operation without an id, so where it is wanted it picks none of them. -/
theorem calls_of_isUnnamed {operation : Operation} (unnamed : operation.IsUnnamed) :
    operation.callPath.segments = [] ∧
    operation.verb.name.toList <+: operation.callPath.methodName.toList ∧
    operation.callPath.methodName ≠ "" ∧
    (∀ call, (callOf operation).result = .ok call →
      call.namespacePath = [] ∧ call.methodName = operation.callPath.methodName) ∧
    (operation.isJson = true → ∃ call, (callOf operation).result = .ok call) ∧
    (∀ document operationIds root, (namespaceRoot document operationIds).result = .ok root →
      operation ∈ document.operations → isWanted operationIds operation = true →
        ∃ call ∈ root.calls, call.methodName = operation.callPath.methodName) ∧
    ∀ other : Operation, other.IsUnnamed →
      (operation.effectiveId = other.effectiveId ↔
        operation.verb = other.verb ∧ operation.path = other.path) ∧
      ∀ operationIds, isWanted (some (operation.effectiveId :: operationIds)) other = true ↔
        operation.verb = other.verb ∧ operation.path = other.path ∨
          isWanted (some operationIds) other = true := by
  have path : operation.callPath =
      ⟨[], Naming.methodIdentifier (fallbackId operation.verb operation.path)⟩ := by
    rw [Operation.callPath, unnamed.effectiveId, callPath_fallbackId]
  have atRoot : operation.callPath.segments = [] := by rw [path]
  have starts : operation.verb.name.toList <+: operation.callPath.methodName.toList := by
    rw [path]
    exact prefix_methodIdentifier_fallbackId _ _
  refine ⟨atRoot, starts, fun empty => ?_, fun call made => ?_, succeeds_callOf, ?_,
    fun other unnamed' => ⟨?_, ?_⟩⟩
  · rw [empty, String.toList_empty, List.prefix_nil] at starts
    exact operation.verb.toList_name_ne_nil starts
  · have same := path_of_result_callOf operation call made
    exact ⟨(congrArg Naming.CallPath.segments same).trans atRoot,
      congrArg Naming.CallPath.methodName same⟩
  · exact fun document operationIds root placed member wanted =>
      exists_call_at_root placed member wanted atRoot
  · rw [unnamed.effectiveId, unnamed'.effectiveId, fallbackId_eq_iff]
  · exact isWanted_cons_iff unnamed unnamed'

/-- An operation that reads a path and says nothing of itself. -/
def bareOperation (path : String) (operationId : Option String) : Operation where
  path
  verb := .get
  operationId
  summary := none
  description := none
  tags := []
  deprecated := false
  parameters := []
  requestBody := none
  responses := []

/-- A document with two operations without an id, whose method names are the same. -/
def unnamedDocument : Document where
  version := "3.0.0"
  info := ⟨"Pets", "1", none⟩
  servers := []
  schemas := []
  operations := [bareOperation "/v1/pets.json" none, bareOperation "/v1/pets_json" (some "")]

theorem calls_of_isUnnamed_unnamedDocument :
    let first := bareOperation "/v1/pets.json" none
    let second := bareOperation "/v1/pets_json" (some "")
    first.IsUnnamed ∧ second.IsUnnamed ∧
      first.callPath = ⟨[], "getV1PetsJson"⟩ ∧ second.callPath = first.callPath ∧
      first.effectiveId ≠ second.effectiveId ∧
      isWanted (some [first.effectiveId]) second = false ∧
      ∃ root, (namespaceRoot unnamedDocument (some [first.effectiveId])).result = .ok root ∧
        ∃ call ∈ root.calls, call.methodName = "getV1PetsJson" := by
  intro first second
  have unnamed : first.IsUnnamed := by decide
  have unnamed' : second.IsUnnamed := by decide
  have name : first.callPath = ⟨[], "getV1PetsJson"⟩ := by decide
  obtain ⟨_, _, _, _, _, atRoot, apart⟩ := calls_of_isUnnamed unnamed
  obtain ⟨tells, picks⟩ := apart second unnamed'
  have other : ¬(first.verb = second.verb ∧ first.path = second.path) := by decide
  have json : unnamedDocument.isJson = true := by decide
  obtain ⟨root, placed⟩ := succeeds_namespaceRoot json (some [first.effectiveId])
  obtain ⟨call, member, named⟩ := atRoot _ _ root placed List.mem_cons_self (by decide)
  rw [name] at named
  refine ⟨unnamed, unnamed', name, by decide, fun same => other (tells.1 same), ?_,
    root, placed, call, member, named⟩
  rw [← Bool.not_eq_true, picks []]
  rintro (same | wanted)
  · exact other same
  · cases wanted

end Assembly

end ClientModel
