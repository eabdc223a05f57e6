/-
This file says what a model has when more operations are wanted. Where no two operations have the
same path, no call takes the place of another. Then the calls of a namespace are those of the
wanted operations, and wanting more only puts further calls between them. What the calls need
grows with them, so that declarations are only added too. The main statement puts both together.
-/

import ClientModel.Proofs.Filtering
import ClientModel.Proofs.NamespaceTree

namespace ClientModel

/-! ### Items of different keys -/

namespace Placement

variable {Item Key : Type} (key : Item → Key) [BEq Key] [LawfulBEq Key]

/-- An item with a new key goes to the end. -/
theorem place_of_not_mem {item : Item} {items : List Item} (new : key item ∉ items.map key) :
    place key item items = items ++ [item] := by
  induction items with
  | nil => rfl
  | cons first rest inductionHypothesis =>
    rw [List.map_cons, List.mem_cons, not_or] at new
    have apart : (key first == key item) = false :=
      beq_eq_false_iff_ne.2 fun same => new.1 same.symm
    rw [place, apart, inductionHypothesis new.2]
    rfl

/-- Items of different keys are all left, in their order. -/
theorem placeAll_of_nodup {items : List Item} (distinct : (items.map key).Nodup) :
    placeAll key items = items := by
  induction items using List.reverseRecOn with
  | nil => rfl
  | append_singleton rest last inductionHypothesis =>
    rw [List.map_append, List.map_singleton, List.nodup_append] at distinct
    rw [placeAll_append_singleton, inductionHypothesis distinct.1]
    exact place_of_not_mem key fun old =>
      distinct.2.2 _ old _ (List.mem_singleton_self _) rfl

end Placement

/-! ### Calls of different paths -/

namespace Namespace

/-- Where all calls have different paths, a namespace has each call with its path, in the order in
which they were placed. -/
theorem calls_nodeAt_tree_of_nodup {calls : List Call} (distinct : (calls.map Call.path).Nodup)
    (path : List String) :
    ((tree calls).nodeAt path).calls = calls.filter (·.namespacePath == path) := by
  rw [calls_nodeAt_tree]
  refine Placement.placeAll_of_nodup _ ?_
  have here : ∀ call ∈ calls.filter (·.namespacePath == path),
      call ∈ calls ∧ call.namespacePath = path := by simp
  refine List.Nodup.map_on (fun call member other among named => ?_) (distinct.of_map.filter _)
  obtain ⟨placed, stands⟩ := here call member
  obtain ⟨placedOther, standsOther⟩ := here other among
  exact List.inj_on_of_nodup_map distinct placed placedOther
    ((path_eq_iff call other).2 ⟨stands.trans standsOther.symm, named⟩)

/-- With further calls in between, a namespace has further calls in between. -/
theorem calls_sublist_of_at?_tree {calls more : List Call} (among : calls.Sublist more)
    (distinct : (more.map Call.path).Nodup) {path : List String} {node : Namespace}
    (found : (tree calls).at? path = some node) :
    ∃ wider, (tree more).at? path = some wider ∧ node.calls.Sublist wider.calls := by
  have reached : path = [] ∨ ∃ call ∈ more, path <+: call.namespacePath := by
    refine ((isSome_at?_tree path calls).1 (found ▸ rfl)).imp_right ?_
    rintro ⟨call, member, within⟩
    exact ⟨call, among.subset member, within⟩
  refine ⟨(tree more).nodeAt path, (at?_tree path more).trans (if_pos reached), ?_⟩
  rw [← nodeAt_eq_of_at? found, calls_nodeAt_tree_of_nodup (distinct.sublist (among.map _)),
    calls_nodeAt_tree_of_nodup distinct]
  exact among.filter _

/-- More calls need whatever some of them need. -/
theorem Needs.mono {narrow wide : Namespace} {declarations : List Declaration}
    (calls : ∀ call ∈ narrow.walk, call ∈ wide.walk) {name : String}
    (needs : narrow.Needs declarations name) : wide.Needs declarations name := by
  induction needs with
  | call member mentions => exact .call (calls _ member) mentions
  | declaration declared _ mentions inductionHypothesis =>
    exact .declaration declared inductionHypothesis mentions

end Namespace

/-! ### Wanting more operations -/

namespace Assembly

/-- Whatever is wanted by the first ids is wanted by the second. -/
def IsNarrower (operationIds further : Option (List String)) : Prop :=
  ∀ operation, isWanted operationIds operation = true → isWanted further operation = true

theorem isNarrower_of_subset {fewer more : List String} (subset : fewer ⊆ more) :
    IsNarrower (some fewer) (some more) := by
  intro operation wanted
  exact List.contains_iff_mem.2 (subset (List.contains_iff_mem.1 wanted))

/-- Only which ids are listed counts. -/
theorem isWanted_congr {operationIds again : List String}
    (same : ∀ operationId, operationId ∈ operationIds ↔ operationId ∈ again) :
    isWanted (some operationIds) = isWanted (some again) := by
  funext operation
  rw [Bool.eq_iff_iff]
  exact List.contains_iff_mem.trans ((same _).trans List.contains_iff_mem.symm)

/-- The calls of operations are what each of them becomes. -/
theorem calls_eq_filterMap {operations : List Operation} {calls : List Call}
    (made : List.Forall₂ (fun operation call => (callOf operation).result = .ok call)
      operations calls) :
    calls = operations.filterMap fun operation => (callOf operation).result.toOption := by
  induction made with
  | nil => rfl
  | cons here _ inductionHypothesis =>
    rw [List.filterMap_cons, here, ← inductionHypothesis]
    rfl

section

variable {document : Document} (distinct : (document.operations.map Operation.callPath).Nodup)
  {operationIds further : Option (List String)} (narrower : IsNarrower operationIds further)
  {narrow wide : Namespace}
  (placed : (namespaceRoot document operationIds).result = .ok narrow)
  (placedFurther : (namespaceRoot document further).result = .ok wide)

include distinct narrower placed placedFurther

/-- Where no two operations have the same path, wanting more of them puts further calls between
those of a namespace. -/
theorem calls_sublist_of_isNarrower {path : List String} {node : Namespace}
    (found : narrow.at? path = some node) :
    ∃ wider, wide.at? path = some wider ∧ node.calls.Sublist wider.calls := by
  obtain ⟨calls, made, rfl⟩ := (result_placeCalls_iff _ _ _).1 placed
  obtain ⟨more, madeMore, rfl⟩ := (result_placeCalls_iff _ _ _).1 placedFurther
  have kept : (document.operations.filter (isWanted operationIds)).Sublist
      (document.operations.filter (isWanted further)) :=
    List.monotone_filter_right _ narrower
  have among : calls.Sublist more := by
    rw [calls_eq_filterMap made, calls_eq_filterMap madeMore]
    exact kept.filterMap _
  have paths := Placement.map_key_of_forall₂ Call.path path_of_result_callOf madeMore
  exact Namespace.calls_sublist_of_at?_tree among
    (paths ▸ distinct.sublist (List.filter_sublist.map _)) found

/-- Every call is still met, in the namespace in which it was met. -/
theorem exists_at?_of_isNarrower {call : Call} (member : call ∈ narrow.walk) :
    ∃ node, wide.at? call.namespacePath = some node ∧ call ∈ node.calls := by
  obtain ⟨calls, _, same⟩ := (result_placeCalls_iff _ _ _).1 placed
  have arranged : narrow.Arranged [] := same ▸ Namespace.arranged_tree calls
  obtain ⟨node, found, here⟩ := (arranged.mem_walk_iff call).1 member
  obtain ⟨wider, foundWider, sublist⟩ :=
    calls_sublist_of_isNarrower distinct narrower placed placedFurther found
  exact ⟨wider, foundWider, sublist.subset here⟩

/-- Every call is met again. -/
theorem mem_walk_of_isNarrower {call : Call} (member : call ∈ narrow.walk) : call ∈ wide.walk := by
  obtain ⟨node, found, here⟩ :=
    exists_at?_of_isNarrower distinct narrower placed placedFurther member
  exact Namespace.mem_walk_of_at? found (Namespace.mem_walk_of_mem_calls here)

end

/-- Declarations that some calls keep are kept, among further ones, by more calls. -/
theorem keptDeclarations_sublist {document : Document} {all : List Declaration}
    (built : (declarations document).result = .ok all) {narrow wide : Namespace}
    (calls : ∀ call ∈ narrow.walk, call ∈ wide.walk) (fewer more : List String) :
    (keptDeclarations all narrow (some fewer)).Sublist
      (keptDeclarations all wide (some more)) := by
  refine List.monotone_filter_right all fun declaration kept => ?_
  have distinct := nodup_identifiers built
  rw [List.contains_iff_mem, Reachability.mem_reachableNames_iff distinct,
    leads_iff_needs built] at kept ⊢
  exact kept.mono calls

/-- Let no two operations of a document have the same path. Then a model of more wanted operations
has every call, as it is and in the namespace where it stood, with further ones in between, and
every declaration, with further ones in between; all of these are declarations of the model of all
operations. How often and in which order ids are listed changes nothing. -/
theorem modelOf_of_subset {document : Document} (json : document.isJson = true)
    (distinct : (document.operations.map Operation.callPath).Nodup) {fewer more : List String}
    (subset : fewer ⊆ more) :
    ∃ narrow wide full, (modelOf document (some fewer)).result = .ok narrow ∧
      (modelOf document (some more)).result = .ok wide ∧
      (modelOf document none).result = .ok full ∧
      (∀ call ∈ narrow.root.walk, ∃ node,
        wide.root.at? call.namespacePath = some node ∧ call ∈ node.calls) ∧
      (∀ path node, narrow.root.at? path = some node → ∃ wider,
        wide.root.at? path = some wider ∧ node.calls.Sublist wider.calls) ∧
      narrow.declarations.Sublist wide.declarations ∧
      wide.declarations.Sublist full.declarations ∧
      ∀ again, (∀ operationId, operationId ∈ fewer ↔ operationId ∈ again) →
        modelOf document (some again) = modelOf document (some fewer) := by
  obtain ⟨all, built⟩ := succeeds_declarations json
  obtain ⟨narrow, placed⟩ := succeeds_namespaceRoot json (some fewer)
  obtain ⟨wide, placedMore⟩ := succeeds_namespaceRoot json (some more)
  obtain ⟨full, placedAll⟩ := succeeds_namespaceRoot json none
  have made {operationIds : Option (List String)} {root : Namespace}
      (placed : (namespaceRoot document operationIds).result = .ok root) :=
    (result_modelOf_iff document operationIds _).2 ⟨all, root, built, placed, rfl⟩
  have narrower := isNarrower_of_subset subset
  refine ⟨_, _, _, made placed, made placedMore, made placedAll, fun call member => ?_,
    fun path node found => ?_, ?_, ?_, fun again same => ?_⟩
  · exact exists_at?_of_isNarrower distinct narrower placed placedMore member
  · exact calls_sublist_of_isNarrower distinct narrower placed placedMore found
  · exact keptDeclarations_sublist built (fun call member =>
      mem_walk_of_isNarrower distinct narrower placed placedMore member) fewer more
  · exact List.filter_sublist
  · simp only [modelOf, namespaceRoot, isWanted_congr same]
    rfl

/-- A document with two operations that answer with different schemas, and a third one. -/
def storesDocument : Document where
  version := "3.0.0"
  info := ⟨"Stores", "1", none⟩
  servers := []
  schemas := [("pet", .primitive {} "string"), ("store", .primitive {} "string")]
  operations := [("/pets", "pets/list", some "pet"), ("/stores", "stores/list", some "store"),
    ("/pets/{id}", "pets/get", none)].map fun entry =>
      { path := entry.1, verb := .get, operationId := some entry.2.1, summary := none
        description := none, tags := [], deprecated := false, parameters := []
        requestBody := none
        responses := [("200", ⟨"200", none, ["application/json"], true, entry.2.2.map fun name =>
          .reference {} ("#/components/schemas/" ++ name)⟩)] }

theorem modelOf_of_subset_storesDocument :
    storesDocument.isJson = true ∧ (storesDocument.operations.map Operation.callPath).Nodup ∧
      ["stores/list"] ⊆ ["pets/list", "stores/list"] ∧
      ∃ narrow wide full, (modelOf storesDocument (some ["stores/list"])).result = .ok narrow ∧
        (modelOf storesDocument (some ["pets/list", "stores/list"])).result = .ok wide ∧
        (modelOf storesDocument none).result = .ok full ∧
        (∀ call ∈ narrow.root.walk, ∃ node,
          wide.root.at? call.namespacePath = some node ∧ call ∈ node.calls) ∧
        narrow.declarations.Sublist wide.declarations ∧
        wide.declarations.Sublist full.declarations ∧
        modelOf storesDocument (some ["stores/list", "stores/list"]) =
          modelOf storesDocument (some ["stores/list"]) := by
  have json : storesDocument.isJson = true := by decide
  have distinct : (storesDocument.operations.map Operation.callPath).Nodup := by decide
  have subset : ["stores/list"] ⊆ ["pets/list", "stores/list"] := by simp
  obtain ⟨narrow, wide, full, made, madeMore, madeAll, calls, _, kept, declared, same⟩ :=
    modelOf_of_subset json distinct subset
  exact ⟨json, distinct, subset, narrow, wide, full, made, madeMore, madeAll, calls, kept, declared,
    same ["stores/list", "stores/list"] (by simp)⟩

end Assembly

end ClientModel
