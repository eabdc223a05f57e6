/-
This file follows the ids of operations from the entry that lists them to the generation that asks
for them. An entry for a document lists the id of each operation once, in rising order, and no id
where there is no operation. A generation that goes by such an entry wants every operation, so it
makes the tree of the whole document; one that goes by some of the ids makes the tree of the
operations that have them.
-/

import ClientModel.Proofs.Declarations
import ClientModel.Proofs.NamespaceTree
import ClientModel.Program.Commands

namespace ClientModel

open Assembly (isWanted namespaceRoot declarations modelOf)

/-! ### Listed ids -/

namespace Document

/-- An id is listed where an operation has it, whether it was given or made up for it. -/
theorem mem_operationIds_iff (document : Document) (operationId : String) :
    operationId ∈ document.operationIds ↔
      ∃ operation ∈ document.operations, operation.effectiveId = operationId := by
  simp [operationIds]

/-- The ids are listed in rising order, each once. -/
theorem pairwise_operationIds (document : Document) : document.operationIds.Pairwise (· < ·) := by
  have rising : document.operationIds.Pairwise (· ≤ ·) := by
    refine (List.pairwise_mergeSort ?_ ?_ _).imp fun ordered => of_decide_eq_true ordered
    · intro first second third
      simpa using String.le_trans
    · intro first second
      simpa using String.le_total first second
  have distinct : document.operationIds.Nodup :=
    (List.mergeSort_perm _ _).nodup_iff.2 (Placement.nodup_eraseDups _)
  refine rising.imp₂ (fun first second atMost other => ?_) distinct
  by_contra notLess
  exact other (String.le_antisymm atMost (String.not_lt.1 notLess))

end Document

/-! ### Wanted operations -/

namespace Assembly

/-- Where the ids of all operations are wanted, or nothing is said because there are none, no
operation is left out. -/
theorem namespaceRoot_listed (document : Document) (source output : String) (headers : Headers)
    (timeout : Binary64) :
    namespaceRoot document
        (Context.wantedOperations (ApiEntry.ofDocument document source output headers timeout)) =
      namespaceRoot document none := by
  have all : document.operations.filter (isWanted (Context.wantedOperations
      (ApiEntry.ofDocument document source output headers timeout))) =
        document.operations.filter (isWanted none) := by
    refine List.filter_congr fun operation member => ?_
    unfold Context.wantedOperations
    split
    · rfl
    · have listed := (document.mem_operationIds_iff _).2 ⟨operation, member, rfl⟩
      exact List.contains_iff_mem.2 listed
  rw [namespaceRoot, namespaceRoot, all]

/-- What is warned about while a model is made is warned about where the declarations or the tree
are made. -/
theorem warnings_modelOf {document : Document} {all : List Declaration} {root : Namespace}
    {operationIds : Option (List String)} (built : (declarations document).result = .ok all)
    (placed : (namespaceRoot document operationIds).result = .ok root) :
    (modelOf document operationIds).notices.filter (·.severity == .warning) =
      ((declarations document).notices ++ (namespaceRoot document operationIds).notices).filter
        (·.severity == .warning) := by
  have silent (names : List String) :
      (names.map Notice.undeclared).filter (·.severity == .warning) = [] := by
    refine List.filter_eq_nil_iff.2 fun notice member => ?_
    obtain ⟨name, _, rfl⟩ := List.mem_map.1 member
    exact Bool.false_ne_true
  simp only [modelOf, notices_bind, built, placed, result_leaveAll, notices_leaveAll,
    List.filter_append, silent, List.nil_append, List.append_cancel_left_eq]
  exact List.append_nil _

/-- The tree of a document is that of the operations that are wanted. -/
theorem isTreeOf_of_namespaceRoot {document : Document} {root : Namespace}
    {operationIds : Option (List String)}
    (placed : (namespaceRoot document operationIds).result = .ok root) :
    root.IsTreeOf (document.operations.filter (isWanted operationIds)) := by
  obtain ⟨calls, made, rfl⟩ := (result_placeCalls_iff _ _ _).1 placed
  exact Namespace.isTreeOf_tree made

/-! ### Models by an entry -/

/-- An entry for a document lists the ids of its operations in rising order, each once. Going by
it, the model has the tree of all operations, and nothing else is warned about than where no ids
are listed. Going by it with some ids only, the model has the tree of the operations with these
ids. -/
theorem modelOf_listedOperations {document : Document} (json : document.isJson = true)
    (source output : String) (headers : Headers) (timeout : Binary64) :
    let entry := ApiEntry.ofDocument document source output headers timeout
    entry.operationIds.Pairwise (· < ·) ∧
    (∀ operationId, operationId ∈ entry.operationIds ↔
      ∃ operation ∈ document.operations, operation.effectiveId = operationId) ∧
    (∃ full again, (modelOf document none).result = .ok full ∧
      (modelOf document (Context.wantedOperations entry)).result = .ok again ∧
      again.root = full.root ∧ full.root.IsTreeOf document.operations ∧
      (modelOf document (Context.wantedOperations entry)).notices.filter
          (·.severity == .warning) =
        (modelOf document none).notices.filter (·.severity == .warning)) ∧
    ∀ kept, kept ≠ [] → ∃ part, (modelOf document
        (Context.wantedOperations { entry with operationIds := kept })).result = .ok part ∧
      part.root.IsTreeOf
        (document.operations.filter fun operation => kept.contains operation.effectiveId) := by
  intro entry
  obtain ⟨all, built⟩ := succeeds_declarations json
  have made (operationIds : Option (List String)) {root : Namespace}
      (placed : (namespaceRoot document operationIds).result = .ok root) :=
    (result_modelOf_iff document operationIds _).2 ⟨all, root, built, placed, rfl⟩
  have listed : namespaceRoot document (Context.wantedOperations entry) =
      namespaceRoot document none := namespaceRoot_listed document source output headers timeout
  refine ⟨document.pairwise_operationIds, document.mem_operationIds_iff, ?_, ?_⟩
  · obtain ⟨root, placed⟩ := succeeds_namespaceRoot json none
    have again : (namespaceRoot document (Context.wantedOperations entry)).result = .ok root :=
      listed ▸ placed
    have unfiltered : document.operations.filter (isWanted none) = document.operations :=
      List.filter_eq_self.2 fun _ _ => rfl
    have whole := unfiltered ▸ isTreeOf_of_namespaceRoot placed
    refine ⟨_, _, made _ placed, made _ again, rfl, whole, ?_⟩
    rw [warnings_modelOf built placed, warnings_modelOf built again, listed]
  · intro kept filled
    have wanted : Context.wantedOperations { entry with operationIds := kept } = some kept := by
      simp [Context.wantedOperations, filled]
    obtain ⟨root, placed⟩ := succeeds_namespaceRoot json (some kept)
    rw [wanted]
    exact ⟨_, made _ placed, isTreeOf_of_namespaceRoot placed⟩

/-- A document with an operation that has no id, one whose id is what that operation is called
then, and two whose calls have the same path. -/
def listedDocument : Document where
  version := "3.0.0"
  info := ⟨"Pets", "1", none⟩
  servers := []
  schemas := []
  operations := [("/pets", none), ("/cats", some "get_/pets"), ("/store", some "store/get"),
    ("/shop", some "store.get")].map fun entry =>
      { path := entry.1, verb := .get, operationId := entry.2, summary := none
        description := none, tags := [], deprecated := false, parameters := []
        requestBody := none, responses := [] }

theorem modelOf_listedOperations_listedDocument :
    let entry := ApiEntry.ofDocument listedDocument "pets.json" "." [] (Binary64.ofInt 30)
    listedDocument.isJson = true ∧ ["get_/pets"] ≠ [] ∧ "get_/pets" ∈ entry.operationIds ∧
    (∃ full again, (modelOf listedDocument none).result = .ok full ∧
      (modelOf listedDocument (Context.wantedOperations entry)).result = .ok again ∧
      again.root = full.root) ∧
    ∃ part, (modelOf listedDocument (Context.wantedOperations
        { entry with operationIds := ["get_/pets"] })).result = .ok part ∧
      part.root.IsTreeOf (listedDocument.operations.take 2) := by
  have json : listedDocument.isJson = true := by decide
  obtain ⟨_, listed, ⟨full, again, whole, made, same, _⟩, parts⟩ :=
    modelOf_listedOperations json "pets.json" "." [] (Binary64.ofInt 30)
  have filled : ["get_/pets"] ≠ [] := List.cons_ne_nil _ _
  have member := (listed "get_/pets").2 ⟨_, List.mem_cons_self, rfl⟩
  have first : (listedDocument.operations.filter fun operation =>
      ["get_/pets"].contains operation.effectiveId) = listedDocument.operations.take 2 := rfl
  exact ⟨json, filled, member, ⟨full, again, whole, made, same⟩, first ▸ parts _ filled⟩

end Assembly

end ClientModel
