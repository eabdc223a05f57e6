/-
This file says what the tree of calls is: every call stands in the namespace at the end of its
path, and of the calls with the same path and method name only the last is left. The main
statements say this of the tree that the operations of a document make, with the order in which
calls and namespaces stand, and that the notes about replaced operations count what is missing.
-/

import ClientModel.Proofs.Notes
import ClientModel.Proofs.Placement
import ClientModel.Proofs.Success

namespace ClientModel

open Placement (IsLast)

/-- The path of an operation: its namespaces and the name of its method. -/
def Operation.callPath (operation : Operation) : Naming.CallPath :=
  Naming.callPath operation.effectiveId

/-- An operation as notes name it. -/
def Operation.endpoint (operation : Operation) : Endpoint :=
  ⟨operation.verb.capitals, operation.path⟩

/-- The path of a call. -/
def Call.path (call : Call) : Naming.CallPath := ⟨call.namespacePath, call.methodName⟩

namespace Namespace

/-! ### The namespace at the end of a path -/

/-- The namespace at the end of a path, and an empty one where there is none. -/
def nodeAt : List String → Namespace → Namespace
  | [], here => here
  | segment :: rest, here =>
    nodeAt rest ((Ordered.get? segment here.children).getD (empty segment))

theorem nodeAt_eq_of_at? {path : List String} {root node : Namespace}
    (found : root.at? path = some node) : root.nodeAt path = node := by
  induction path generalizing root with
  | nil => exact Option.some.inj found
  | cons segment rest inductionHypothesis =>
    obtain ⟨name, children, calls⟩ := root
    obtain ⟨child, here, further⟩ := Option.bind_eq_some_iff.1 found
    rw [nodeAt, Namespace.children, here]
    exact inductionHypothesis further

theorem nodeAt_empty (path : List String) (name : String) :
    (empty name).nodeAt path = empty (path.getLastD name) := by
  induction path generalizing name with
  | nil => rfl
  | cons segment rest inductionHypothesis =>
    rw [nodeAt, List.getLastD_cons]
    exact inductionHypothesis segment

theorem at?_append (path further : List String) (root : Namespace) :
    root.at? (path ++ further) = (root.at? path).bind (at? further) := by
  induction path generalizing root with
  | nil => rfl
  | cons segment rest inductionHypothesis =>
    obtain ⟨name, children, calls⟩ := root
    simp only [List.cons_append, at?, Option.bind_assoc]
    exact congrArg _ (funext inductionHypothesis)

/-! ### Placing one call -/

@[simp] theorem name_place (call : Call) (path : List String) (root : Namespace) :
    (root.place call path).name = root.name := by
  obtain ⟨name, children, calls⟩ := root
  cases path <;> rfl

theorem placeCall_eq (call : Call) (calls : List Call) :
    placeCall call calls = Placement.place Call.methodName call calls := by
  induction calls with
  | nil => rfl
  | cons other rest inductionHypothesis =>
    simp only [placeCall, Placement.place, inductionHypothesis]

/-- Along its path, a call is placed further down. -/
theorem at?_place_append (call : Call) (path further : List String) (root : Namespace) :
    (root.place call (path ++ further)).at? path =
      some ((root.nodeAt path).place call further) := by
  induction path generalizing root with
  | nil => rfl
  | cons segment rest inductionHypothesis =>
    obtain ⟨name, children, calls⟩ := root
    simp only [List.cons_append, place, at?, Ordered.get?_put_self, Option.bind_some]
    exact inductionHypothesis _

theorem nodeAt_place_append (call : Call) (path further : List String) (root : Namespace) :
    (root.place call (path ++ further)).nodeAt path = (root.nodeAt path).place call further :=
  nodeAt_eq_of_at? (at?_place_append call path further root)

/-- Off its path, a call changes nothing. -/
theorem at?_place_off_path (call : Call) {path other : List String}
    (apart : ¬ other <+: path) (root : Namespace) :
    (root.place call path).at? other = root.at? other := by
  induction other generalizing path root with
  | nil => exact absurd List.nil_prefix apart
  | cons segment rest inductionHypothesis =>
    obtain ⟨name, children, calls⟩ := root
    cases path with
    | nil => rfl
    | cons first further =>
      simp only [place, at?]
      by_cases same : segment = first
      · subst same
        -- The paths part further down. A namespace that is made on the way is empty off the path.
        rw [List.cons_prefix_cons, and_iff_right rfl] at apart
        rw [Ordered.get?_put_self, Option.bind_some, inductionHypothesis apart]
        cases Ordered.get? segment children with
        | some child => rfl
        | none =>
          cases rest with
          | nil => exact absurd List.nil_prefix apart
          | cons second others => rfl
      · rw [Ordered.get?_put_of_ne same]

theorem nodeAt_place_off_path (call : Call) {path other : List String}
    (apart : ¬ other <+: path) (root : Namespace) :
    (root.place call path).nodeAt other = root.nodeAt other := by
  induction other generalizing path root with
  | nil => exact absurd List.nil_prefix apart
  | cons segment rest inductionHypothesis =>
    obtain ⟨name, children, calls⟩ := root
    cases path with
    | nil => rfl
    | cons first further =>
      simp only [place, nodeAt, Namespace.children]
      by_cases same : segment = first
      · subst same
        rw [List.cons_prefix_cons, and_iff_right rfl] at apart
        rw [Ordered.get?_put_self, Option.getD_some, inductionHypothesis apart]
      · rw [Ordered.get?_put_of_ne same]

/-! ### What one call changes -/

/-- The segment that stands behind a path among segments that start with it. -/
def segmentBehind? (path segments : List String) : Option String :=
  if path <+: segments then segments[path.length]? else none

theorem segmentBehind?_append (path further : List String) :
    segmentBehind? path (path ++ further) = further.head? := by
  rw [segmentBehind?, if_pos (List.prefix_append _ _), List.getElem?_append_right (Nat.le_refl _),
    Nat.sub_self, List.head?_eq_getElem?]

theorem segmentBehind?_eq_some_iff (path segments : List String) (segment : String) :
    segmentBehind? path segments = some segment ↔ path ++ [segment] <+: segments := by
  constructor
  · intro found
    by_cases within : path <+: segments
    · obtain ⟨further, rfl⟩ := within
      rw [segmentBehind?_append, List.head?_eq_some_iff] at found
      obtain ⟨rest, rfl⟩ := found
      exact ⟨rest, by simp⟩
    · rw [segmentBehind?, if_neg within] at found
      cases found
  · rintro ⟨rest, rfl⟩
    rw [List.append_assoc, segmentBehind?_append]
    rfl

/-- After a call is placed, the namespace at the end of a path has the name that it had. -/
theorem name_nodeAt_place (call : Call) (path other : List String) (root : Namespace) :
    ((root.place call path).nodeAt other).name = (root.nodeAt other).name := by
  by_cases within : other <+: path
  · obtain ⟨further, rfl⟩ := within
    rw [nodeAt_place_append, name_place]
  · rw [nodeAt_place_off_path call within]

/-- It has one more call if the path is that of the call. -/
theorem calls_nodeAt_place (call : Call) (path other : List String) (root : Namespace) :
    ((root.place call path).nodeAt other).calls =
      if path = other then Placement.place Call.methodName call (root.nodeAt other).calls
      else (root.nodeAt other).calls := by
  by_cases within : other <+: path
  · obtain ⟨further, rfl⟩ := within
    rw [nodeAt_place_append]
    obtain ⟨name, children, calls⟩ := root.nodeAt other
    cases further with
    | nil => rw [if_pos (List.append_nil other)]; exact placeCall_eq call calls
    | cons segment rest => rw [if_neg (by simp)]; rfl
  · rw [nodeAt_place_off_path call within,
      if_neg fun same : path = other => within (same ▸ List.prefix_refl _)]

/-- It has one more namespace if the path of the call goes on with a new segment. -/
theorem keys_nodeAt_place_of_some (call : Call) {path other : List String} {segment : String}
    (behind : segmentBehind? other path = some segment) (root : Namespace) :
    ((root.place call path).nodeAt other).children.map Prod.fst =
      let keys := (root.nodeAt other).children.map Prod.fst
      if segment ∈ keys then keys else keys ++ [segment] := by
  obtain ⟨rest, rfl⟩ := (segmentBehind?_eq_some_iff _ _ _).1 behind
  rw [List.append_assoc, nodeAt_place_append]
  obtain ⟨name, children, calls⟩ := root.nodeAt other
  exact Ordered.keys_put segment _ children

theorem keys_nodeAt_place_of_none (call : Call) {path other : List String}
    (behind : segmentBehind? other path = none) (root : Namespace) :
    ((root.place call path).nodeAt other).children.map Prod.fst =
      (root.nodeAt other).children.map Prod.fst := by
  by_cases within : other <+: path
  · obtain ⟨further, rfl⟩ := within
    rw [segmentBehind?_append, List.head?_eq_none_iff] at behind
    subst behind
    rw [nodeAt_place_append]
    obtain ⟨name, children, calls⟩ := root.nodeAt other
    rfl
  · rw [nodeAt_place_off_path call within]

/-! ### The tree of calls -/

/-- The tree of calls that are placed one after another. -/
def tree (calls : List Call) : Namespace :=
  calls.foldl (fun root call => root.place call call.namespacePath) (empty "")

theorem tree_append_singleton (calls : List Call) (call : Call) :
    tree (calls ++ [call]) = (tree calls).place call call.namespacePath := by
  simp [tree]

/-- The name of a namespace is the last segment of its path. -/
theorem name_nodeAt_tree (path : List String) (calls : List Call) :
    ((tree calls).nodeAt path).name = path.getLastD "" := by
  induction calls using List.reverseRecOn with
  | nil => rw [tree, List.foldl_nil, nodeAt_empty]; rfl
  | append_singleton calls call inductionHypothesis =>
    rw [tree_append_singleton, name_nodeAt_place, inductionHypothesis]

/-- The namespace at the end of a path has the calls with that path, placed one after another. -/
theorem calls_nodeAt_tree (path : List String) (calls : List Call) :
    ((tree calls).nodeAt path).calls =
      Placement.placeAll Call.methodName (calls.filter (·.namespacePath == path)) := by
  induction calls using List.reverseRecOn with
  | nil => rw [tree, List.foldl_nil, nodeAt_empty]; rfl
  | append_singleton calls call inductionHypothesis =>
    rw [tree_append_singleton, calls_nodeAt_place, inductionHypothesis, List.filter_append]
    by_cases here : call.namespacePath = path
    · have kept : [call].filter (·.namespacePath == path) = [call] := by simp [here]
      rw [if_pos here, kept, Placement.placeAll_append_singleton]
    · have dropped : [call].filter (·.namespacePath == path) = [] := by simp [here]
      rw [if_neg here, dropped, List.append_nil]

/-- The namespaces in it stand in the order in which calls first go through them. -/
theorem keys_nodeAt_tree (path : List String) (calls : List Call) :
    ((tree calls).nodeAt path).children.map Prod.fst =
      (calls.filterMap fun call => segmentBehind? path call.namespacePath).eraseDups := by
  induction calls using List.reverseRecOn with
  | nil => rw [tree, List.foldl_nil, nodeAt_empty]; rfl
  | append_singleton calls call inductionHypothesis =>
    rw [tree_append_singleton, List.filterMap_append]
    cases behind : segmentBehind? path call.namespacePath with
    | none =>
      rw [keys_nodeAt_place_of_none call behind, inductionHypothesis]
      simp [behind]
    | some segment =>
      have passed : [call].filterMap (fun call => segmentBehind? path call.namespacePath) =
          [segment] := by simp [behind]
      rw [keys_nodeAt_place_of_some call behind, inductionHypothesis, passed,
        Placement.eraseDups_append_singleton]
      simp only [List.mem_eraseDups]

/-- A path leads to a namespace if it is empty or the path of some call goes through it. -/
theorem at?_tree (path : List String) (calls : List Call) :
    (tree calls).at? path =
      if path = [] ∨ ∃ call ∈ calls, path <+: call.namespacePath
      then some ((tree calls).nodeAt path) else none := by
  induction calls using List.reverseRecOn with
  | nil =>
    cases path with
    | nil => rfl
    | cons segment rest => simp [tree, empty, at?, Ordered.get?]
  | append_singleton calls call inductionHypothesis =>
    rw [tree_append_singleton]
    by_cases within : path <+: call.namespacePath
    · rw [if_pos (Or.inr ⟨call, by simp, within⟩)]
      obtain ⟨further, split⟩ := within
      rw [← split, at?_place_append, nodeAt_place_append]
    · rw [at?_place_off_path call within, nodeAt_place_off_path call within,
        inductionHypothesis]
      simp [or_and_right, exists_or, within]

theorem isSome_at?_tree (path : List String) (calls : List Call) :
    ((tree calls).at? path).isSome ↔ path = [] ∨ ∃ call ∈ calls, path <+: call.namespacePath := by
  rw [at?_tree]
  split <;> simp [*]

/-! ### Walking a tree -/

theorem walkChildren_eq_flatMap (children : List (String × Namespace)) :
    walkChildren children = children.flatMap fun entry => entry.2.walk := by
  induction children with
  | nil => rfl
  | cons entry rest inductionHypothesis => simp [walkChildren, inductionHypothesis]

mutual

/-- What holds of a namespace when it holds of the namespaces in it holds of every namespace. -/
theorem inductionOn {motive : Namespace → Prop} (root : Namespace)
    (node : ∀ name children calls, (∀ entry ∈ children, motive entry.2) →
      motive (.node name children calls)) : motive root := by
  match root with
  | .node name children calls => exact node name children calls (childrenInductionOn children node)

theorem childrenInductionOn {motive : Namespace → Prop} (children : List (String × Namespace))
    (node : ∀ name children calls, (∀ entry ∈ children, motive entry.2) →
      motive (.node name children calls)) : ∀ entry ∈ children, motive entry.2 := by
  match children with
  | [] => exact fun _ member => absurd member List.not_mem_nil
  | (_, child) :: rest =>
    exact List.forall_mem_cons.2 ⟨inductionOn child node, childrenInductionOn rest node⟩

end

/-- A namespace whose calls stand where their paths say, behind a path that leads to it. -/
structure Arranged (base : List String) (root : Namespace) : Prop where
  paths : ∀ path node, root.at? path = some node →
    ∀ call ∈ node.calls, call.namespacePath = base ++ path
  methods : ∀ path node, root.at? path = some node → (node.calls.map Call.methodName).Nodup
  keys : ∀ path node, root.at? path = some node → (node.children.map Prod.fst).Nodup

theorem Arranged.at?_cons {base : List String} {name key : String} {child : Namespace}
    {children : List (String × Namespace)} {calls : List Call}
    (arranged : Arranged base (.node name children calls)) (member : (key, child) ∈ children)
    (path : List String) :
    (Namespace.node name children calls).at? (key :: path) = child.at? path := by
  have found : Ordered.get? key children = some child :=
    Ordered.get?_of_mem (arranged.keys [] _ rfl) member
  rw [at?, found, Option.bind_some]

theorem Arranged.child {base : List String} {name key : String} {child : Namespace}
    {children : List (String × Namespace)} {calls : List Call}
    (arranged : Arranged base (.node name children calls)) (member : (key, child) ∈ children) :
    Arranged (base ++ [key]) child := by
  have further := arranged.at?_cons member
  refine ⟨fun path node there call here => ?_, fun path node there => ?_, fun path node there => ?_⟩
  · rw [arranged.paths (key :: path) node ((further path).trans there) call here]
    simp
  · exact arranged.methods (key :: path) node ((further path).trans there)
  · exact arranged.keys (key :: path) node ((further path).trans there)

/-- The calls of the namespace at the end of a path are met on a walk. -/
theorem mem_walk_of_at? {path : List String} {root node : Namespace}
    (found : root.at? path = some node) {call : Call} (member : call ∈ node.walk) :
    call ∈ root.walk := by
  induction path generalizing root with
  | nil => exact (Option.some.inj found) ▸ member
  | cons segment rest inductionHypothesis =>
    obtain ⟨name, children, calls⟩ := root
    obtain ⟨child, here, further⟩ := Option.bind_eq_some_iff.1 found
    rw [walk, walkChildren_eq_flatMap]
    exact List.mem_append_right _
      (List.mem_flatMap.2 ⟨_, Ordered.mem_of_get? here, inductionHypothesis further⟩)

theorem mem_walk_of_mem_calls {node : Namespace} {call : Call} (member : call ∈ node.calls) :
    call ∈ node.walk := by
  obtain ⟨name, children, calls⟩ := node
  exact List.mem_append_left _ member

/-- A call that is met on a walk is met at the end of some path. -/
theorem Arranged.exists_at?_of_mem_walk {base : List String} {root : Namespace}
    (arranged : Arranged base root) {call : Call} (member : call ∈ root.walk) :
    ∃ path node, root.at? path = some node ∧ call ∈ node.calls := by
  induction root using inductionOn generalizing base with
  | node name children calls inductionHypothesis =>
    rw [walk, walkChildren_eq_flatMap] at member
    rcases List.mem_append.1 member with here | further
    · exact ⟨[], _, rfl, here⟩
    · obtain ⟨⟨key, child⟩, among, inside⟩ := List.mem_flatMap.1 further
      obtain ⟨path, node, found, present⟩ :=
        inductionHypothesis _ among (arranged.child among) inside
      exact ⟨key :: path, node, (arranged.at?_cons among path).trans found, present⟩

theorem Arranged.prefix_of_mem_walk {base : List String} {root : Namespace}
    (arranged : Arranged base root) {call : Call} (member : call ∈ root.walk) :
    base <+: call.namespacePath := by
  obtain ⟨path, node, found, present⟩ := arranged.exists_at?_of_mem_walk member
  rw [arranged.paths path node found call present]
  exact List.prefix_append _ _

/-- A walk meets the calls with a path in the namespace at its end, and nowhere else. -/
theorem Arranged.mem_walk_iff {root : Namespace} (arranged : Arranged [] root) (call : Call) :
    call ∈ root.walk ↔ ∃ node, root.at? call.namespacePath = some node ∧ call ∈ node.calls := by
  constructor
  · intro member
    obtain ⟨path, node, found, present⟩ := arranged.exists_at?_of_mem_walk member
    have same := arranged.paths path node found call present
    exact ⟨node, (same ▸ found : root.at? call.namespacePath = some node), present⟩
  · rintro ⟨node, found, present⟩
    exact mem_walk_of_at? found (mem_walk_of_mem_calls present)

/-- The path of a call in an inner namespace goes on with the name of that namespace. -/
theorem Arranged.segmentBehind?_of_mem_walk {base : List String} {name : String}
    {children : List (String × Namespace)} {calls : List Call}
    (arranged : Arranged base (.node name children calls)) {entry : String × Namespace}
    (member : entry ∈ children) {path : Naming.CallPath}
    (met : path ∈ entry.2.walk.map Call.path) :
    segmentBehind? base path.segments = some entry.1 := by
  obtain ⟨call, inside, rfl⟩ := List.mem_map.1 met
  exact (segmentBehind?_eq_some_iff _ _ _).2 ((arranged.child member).prefix_of_mem_walk inside)

/-- A walk meets no two calls with the same path and method name. -/
theorem Arranged.nodup_walk {base : List String} {root : Namespace}
    (arranged : Arranged base root) : (root.walk.map Call.path).Nodup := by
  induction root using inductionOn generalizing base with
  | node name children calls inductionHypothesis =>
    have methods : (calls.map Call.methodName).Nodup := arranged.methods [] _ rfl
    have keys : (children.map Prod.fst).Nodup := arranged.keys [] _ rfl
    rw [walk, walkChildren_eq_flatMap, List.map_append, List.map_flatMap, List.nodup_append,
      List.nodup_flatMap]
    refine ⟨?_, ⟨fun entry member => inductionHypothesis entry member (arranged.child member), ?_⟩,
      ?_⟩
    · refine List.Nodup.of_map Naming.CallPath.methodName ?_
      rw [List.map_map]
      exact methods
    · rw [List.nodup_iff_pairwise_ne, List.pairwise_map] at keys
      refine keys.imp_of_mem fun {first second} firstMember secondMember apart => ?_
      refine List.disjoint_left.2 fun path met met' => ?_
      have behind := arranged.segmentBehind?_of_mem_walk firstMember met
      rw [arranged.segmentBehind?_of_mem_walk secondMember met'] at behind
      exact apart (Option.some.inj behind).symm
    · rintro path here _ further rfl
      obtain ⟨call, member, rfl⟩ := List.mem_map.1 here
      obtain ⟨entry, among, inside⟩ := List.mem_flatMap.1 further
      have behind := arranged.segmentBehind?_of_mem_walk among inside
      have stands : call.namespacePath = base ++ [] := arranged.paths [] _ rfl call member
      rw [Call.path, stands, segmentBehind?_append] at behind
      cases behind

/-! ### The tree of calls, walked -/

theorem arranged_tree (calls : List Call) : Arranged [] (tree calls) := by
  refine ⟨fun path node found call member => ?_, fun path node found => ?_,
    fun path node found => ?_⟩
  · rw [← nodeAt_eq_of_at? found, calls_nodeAt_tree, Placement.mem_placeAll_iff] at member
    simpa using (List.mem_filter.1 member.mem).2
  · rw [← nodeAt_eq_of_at? found, calls_nodeAt_tree]
    exact Placement.nodup_map_key_placeAll Call.methodName _
  · rw [← nodeAt_eq_of_at? found, keys_nodeAt_tree]
    exact Placement.nodup_eraseDups _

theorem path_eq_iff (call other : Call) :
    call.path = other.path ↔
      call.namespacePath = other.namespacePath ∧ call.methodName = other.methodName := by
  simp [Call.path]

/-- A namespace has the last call of each method name among those with its path. -/
theorem mem_calls_nodeAt_tree_iff (path : List String) (calls : List Call) (call : Call) :
    call ∈ ((tree calls).nodeAt path).calls ↔
      IsLast Call.path calls call ∧ call.namespacePath = path := by
  rw [calls_nodeAt_tree, Placement.mem_placeAll_iff]
  constructor
  · intro last
    have here : call.namespacePath = path := by simpa using (List.mem_filter.1 last.mem).2
    subst here
    exact ⟨(Placement.isLast_filter_iff _ path_eq_iff calls call).1 last, rfl⟩
  · rintro ⟨last, rfl⟩
    exact (Placement.isLast_filter_iff _ path_eq_iff calls call).2 last

/-- A walk meets the last call of each path and method name. -/
theorem mem_walk_tree_iff (calls : List Call) (call : Call) :
    call ∈ (tree calls).walk ↔ IsLast Call.path calls call := by
  rw [(arranged_tree calls).mem_walk_iff]
  constructor
  · rintro ⟨node, found, member⟩
    rw [← nodeAt_eq_of_at? found, mem_calls_nodeAt_tree_iff] at member
    exact member.1
  · intro last
    refine ⟨(tree calls).nodeAt call.namespacePath, ?_,
      (mem_calls_nodeAt_tree_iff _ calls call).2 ⟨last, rfl⟩⟩
    rw [at?_tree, if_pos (Or.inr ⟨call, last.mem, List.prefix_refl _⟩)]

/-- The paths of the calls that are met are those of all calls, each once. -/
theorem map_path_walk_tree (calls : List Call) :
    ((tree calls).walk.map Call.path).Perm (calls.map Call.path).eraseDups := by
  refine (List.perm_ext_iff_of_nodup (arranged_tree calls).nodup_walk
    (Placement.nodup_eraseDups _)).2 fun path => ?_
  rw [List.mem_eraseDups]
  constructor
  · intro member
    obtain ⟨call, met, rfl⟩ := List.mem_map.1 member
    exact List.mem_map_of_mem ((mem_walk_tree_iff calls call).1 met).mem
  · intro member
    obtain ⟨call, last, rfl⟩ := Placement.exists_isLast Call.path member
    exact List.mem_map_of_mem ((mem_walk_tree_iff calls call).2 last)

/-- The namespaces in a namespace are there under their names. -/
theorem name_of_mem_children_tree {calls : List Call} {path : List String} {node : Namespace}
    (found : (tree calls).at? path = some node) {entry : String × Namespace}
    (member : entry ∈ node.children) : entry.2.name = entry.1 := by
  have keys := (arranged_tree calls).keys path node found
  have further : (tree calls).at? (path ++ [entry.1]) = some entry.2 := by
    rw [at?_append, found, Option.bind_some]
    obtain ⟨name, children, own⟩ := node
    have here : Ordered.get? entry.1 children = some entry.2 := Ordered.get?_of_mem keys member
    rw [at?, here]
    rfl
  rw [← nodeAt_eq_of_at? further, name_nodeAt_tree, List.getLastD_concat]

/-- Every namespace but the outermost has a call in it or further in. -/
theorem walk_ne_nil_of_at?_tree {calls : List Call} {path : List String} {node : Namespace}
    (found : (tree calls).at? path = some node) (inner : path ≠ []) : node.walk ≠ [] := by
  have reached := (isSome_at?_tree path calls).1 (found ▸ rfl)
  obtain ⟨call, member, within⟩ := reached.resolve_left inner
  obtain ⟨last, isLast, same⟩ := Placement.exists_isLast Call.path
    (List.mem_map_of_mem member : call.path ∈ calls.map Call.path)
  rw [← ((path_eq_iff last call).1 same).1] at within
  obtain ⟨rest, split⟩ := within
  have met := (mem_walk_tree_iff calls last).2 isLast
  obtain ⟨end', further, present⟩ := ((arranged_tree calls).mem_walk_iff last).1 met
  rw [← split, at?_append, found, Option.bind_some] at further
  exact List.ne_nil_of_mem (mem_walk_of_at? further (mem_walk_of_mem_calls present))

/-- The call under a path and a method name is the last of those calls. -/
theorem callAt?_tree_eq_some_iff (calls : List Call) (path : Naming.CallPath) (call : Call) :
    (tree calls).callAt? path.segments path.methodName = some call ↔
      IsLast Call.path calls call ∧ call.path = path := by
  obtain ⟨segments, methodName⟩ := path
  rw [callAt?, Option.bind_eq_some_iff]
  constructor
  · rintro ⟨node, found, here⟩
    have member := List.mem_of_find?_eq_some here
    rw [← nodeAt_eq_of_at? found, mem_calls_nodeAt_tree_iff] at member
    have named : call.methodName = methodName := by simpa using List.find?_some here
    exact ⟨member.1, by rw [Call.path, member.2, named]⟩
  · rintro ⟨last, same⟩
    obtain ⟨rfl, rfl⟩ := Naming.CallPath.mk.inj same
    have found : (tree calls).at? call.namespacePath =
        some ((tree calls).nodeAt call.namespacePath) := by
      rw [at?_tree, if_pos (Or.inr ⟨call, last.mem, List.prefix_refl _⟩)]
    have member := (mem_calls_nodeAt_tree_iff call.namespacePath calls call).2 ⟨last, rfl⟩
    refine ⟨_, found, ?_⟩
    cases here : ((tree calls).nodeAt call.namespacePath).calls.find?
        (·.methodName == call.methodName) with
    | none =>
      have missing := List.find?_eq_none.1 here call member
      simp at missing
    | some other =>
      have methods := (arranged_tree calls).methods _ _ found
      have named : other.methodName = call.methodName := by simpa using List.find?_some here
      rw [List.inj_on_of_nodup_map methods (List.mem_of_find?_eq_some here) member named]

end Namespace

/-! ### Notes about replaced calls -/

/-- A note about an operation that was replaced. -/
def Notice.isOperationReplaced : Notice → Bool
  | .operationReplaced _ _ _ => true
  | _ => false

namespace Assembly

/-- The notes about replaced calls that are left when calls are placed one after another. -/
def replacements (root : Namespace) : List Call → List Notice
  | [] => []
  | call :: rest =>
    replacement root call ++ replacements (root.place call call.namespacePath) rest

theorem replacements_cons (root : Namespace) (call : Call) (rest : List Call) :
    replacements root (call :: rest) =
      replacement root call ++ replacements (root.place call call.namespacePath) rest := rfl

/-- An operation becomes a call with its path and its endpoint. -/
theorem callPath_and_endpoint_of_result_callOf {operation : Operation} {call : Call}
    (made : (callOf operation).result = .ok call) :
    call.path = operation.callPath ∧ call.endpoint = operation.endpoint := by
  obtain ⟨arguments, body, responseType, _, _, _, rfl⟩ := (result_callOf_eq_ok_iff _ _).1 made
  exact ⟨rfl, rfl⟩

theorem path_of_result_callOf (operation : Operation) (call : Call)
    (made : (callOf operation).result = .ok call) : call.path = operation.callPath :=
  (callPath_and_endpoint_of_result_callOf made).1

/-- Notes name the call as they name the operation. -/
theorem endpoint_of_result_callOf (operation : Operation) (call : Call)
    (made : (callOf operation).result = .ok call) : call.endpoint = operation.endpoint :=
  (callPath_and_endpoint_of_result_callOf made).2

theorem eq_of_result_callOf (operation : Operation) (call other : Call)
    (made : (callOf operation).result = .ok call)
    (again : (callOf operation).result = .ok other) : call = other :=
  Except.ok.inj (made.symm.trans again)

/-- The calls of operations are placed one after another. -/
theorem result_placeCalls_iff (root : Namespace) (operations : List Operation)
    (placed : Namespace) :
    (placeCalls root operations).result = .ok placed ↔
      ∃ calls, List.Forall₂ (fun operation call => (callOf operation).result = .ok call)
        operations calls ∧
          placed = calls.foldl (fun before call => before.place call call.namespacePath) root := by
  induction operations generalizing root with
  | nil => simp [placeCalls, eq_comm]
  | cons operation rest inductionHypothesis =>
    simp only [placeCalls, result_bind_eq_ok_iff, result_leaveAll, exists_const, true_and,
      inductionHypothesis, List.forall₂_cons_left_iff]
    constructor
    · rintro ⟨call, made, calls, others, rfl⟩
      exact ⟨_, ⟨call, calls, made, others, rfl⟩, rfl⟩
    · rintro ⟨_, ⟨call, calls, made, others, rfl⟩, rfl⟩
      exact ⟨call, made, calls, others, rfl⟩

theorem filter_notices_placeCalls {operations : List Operation} {calls : List Call}
    (made : List.Forall₂ (fun operation call => (callOf operation).result = .ok call)
      operations calls) (root : Namespace) :
    (placeCalls root operations).notices.filter Notice.isOperationReplaced =
      replacements root calls := by
  induction made generalizing root with
  | nil => rfl
  | @cons operation call operations calls here others inductionHypothesis =>
    have silent : (callOf operation).notices.filter Notice.isOperationReplaced = [] := by
      refine List.filter_eq_nil_iff.2 fun notice member => ?_
      rcases notesOnly_callOf operation notice member with ⟨_, rfl⟩ | ⟨_, _, _, rfl⟩ <;>
        exact Bool.false_ne_true
    have loud : (replacement root call).filter Notice.isOperationReplaced =
        replacement root call := by
      unfold replacement
      split <;> rfl
    simp only [placeCalls, notices_bind, here, result_leaveAll, notices_leaveAll,
      List.filter_append, silent, loud, inductionHypothesis, List.nil_append, replacements]

/-- A call leaves one note if an earlier one has its path. -/
theorem length_replacement (calls : List Call) (call : Call) :
    (replacement (Namespace.tree calls) call).length =
      if call.path ∈ calls.map Call.path then 1 else 0 := by
  unfold replacement
  split
  · next earlier found =>
    obtain ⟨last, same⟩ := (Namespace.callAt?_tree_eq_some_iff calls call.path earlier).1 found
    rw [if_pos (same ▸ List.mem_map_of_mem last.mem)]
    rfl
  · next missing =>
    have new : call.path ∉ calls.map Call.path := by
      intro old
      obtain ⟨earlier, last⟩ := Placement.exists_isLast Call.path old
      have found := (Namespace.callAt?_tree_eq_some_iff calls call.path earlier).2 last
      rw [Call.path, missing] at found
      cases found
    rw [if_neg new]
    rfl

/-- The notes about replaced calls count the calls that are missing. -/
theorem length_replacements (earlier calls : List Call) :
    (replacements (Namespace.tree earlier) calls).length +
        ((earlier ++ calls).map Call.path).eraseDups.length =
      calls.length + (earlier.map Call.path).eraseDups.length := by
  -- Each further call either leaves a note or brings a new path.
  induction calls generalizing earlier with
  | nil => simp [replacements]
  | cons call rest inductionHypothesis =>
    have paths := Placement.length_eraseDups_append_singleton (earlier.map Call.path) call.path
    rw [← List.map_singleton, ← List.map_append] at paths
    have further := inductionHypothesis (earlier ++ [call])
    rw [List.append_assoc, List.singleton_append, Namespace.tree_append_singleton] at further
    rw [replacements_cons, List.length_append, length_replacement, List.length_cons]
    omega

theorem replacements_append (root : Namespace) (calls further : List Call) :
    replacements root (calls ++ further) = replacements root calls ++
      replacements (calls.foldl (fun before call => before.place call call.namespacePath) root)
        further := by
  induction calls generalizing root with
  | nil => rfl
  | cons call rest inductionHypothesis =>
    simp only [List.cons_append, replacements_cons, inductionHypothesis, List.append_assoc,
      List.foldl_cons]

/-- A call that replaces an earlier one is named in a note together with it. -/
theorem mem_replacements {before : List Call} (after : List Call) {call earlier : Call}
    (last : IsLast Call.path before earlier) (same : earlier.path = call.path) :
    .operationReplaced call.endpoint earlier.endpoint call.qualifiedName ∈
      replacements (Namespace.empty "") (before ++ call :: after) := by
  have found := (Namespace.callAt?_tree_eq_some_iff before call.path earlier).2 ⟨last, same⟩
  rw [Call.path, Namespace.tree] at found
  rw [replacements_append, replacements_cons]
  refine List.mem_append_right _ (List.mem_append_left _ ?_)
  rw [replacement, found]
  exact List.mem_singleton_self _

end Assembly

/-! ### The tree of a document -/

namespace Namespace

open Assembly (path_of_result_callOf endpoint_of_result_callOf eq_of_result_callOf
  mem_replacements)

/-- What the tree of operations is: one call for each path of an operation, made of the last
operation with that path. -/
structure IsTreeOf (operations : List Operation) (root : Namespace) : Prop where
  /-- Each path has one call. -/
  paths : (root.walk.map Call.path).Perm (operations.map Operation.callPath).eraseDups
  /-- It is the call of the last operation with the path. -/
  made : ∀ call, call ∈ root.walk ↔ ∃ operation,
    IsLast Operation.callPath operations operation ∧
      (Assembly.callOf operation).result = .ok call
  /-- The paths that lead to a namespace. -/
  reached : ∀ path, (root.at? path).isSome ↔
    path = [] ∨ ∃ operation ∈ operations, path <+: operation.callPath.segments
  /-- A namespace has the calls whose path leads to it. -/
  calls : ∀ path node, root.at? path = some node →
    ∀ call, call ∈ node.calls ↔ call ∈ root.walk ∧ call.namespacePath = path
  /-- It is named for the end of its path. -/
  name : ∀ path node, root.at? path = some node → node.name = path.getLastD ""
  /-- It has the namespaces in it under their names. -/
  keys : ∀ path node, root.at? path = some node → ∀ entry ∈ node.children, entry.2.name = entry.1
  /-- Its calls stand in the order in which their method names first appear. -/
  callOrder : ∀ path node, root.at? path = some node → node.calls.map Call.methodName =
    (((operations.map Operation.callPath).filter (·.segments == path)).map
      Naming.CallPath.methodName).eraseDups
  /-- The namespaces in it stand in the order in which operations first go through them. -/
  childOrder : ∀ path node, root.at? path = some node → node.children.map Prod.fst =
    (operations.filterMap fun operation =>
      segmentBehind? path operation.callPath.segments).eraseDups
  /-- An inner namespace is not there for nothing. -/
  filled : ∀ path node, root.at? path = some node → path ≠ [] → node.walk ≠ []

theorem isTreeOf_tree {operations : List Operation} {calls : List Call}
    (made : List.Forall₂ (fun operation call => (Assembly.callOf operation).result = .ok call)
      operations calls) : (tree calls).IsTreeOf operations := by
  have paths := Placement.map_key_of_forall₂ Call.path path_of_result_callOf made
  have segments : calls.map Call.namespacePath = operations.map (·.callPath.segments) := by
    have same := congrArg (List.map Naming.CallPath.segments) paths
    rw [List.map_map, List.map_map] at same
    exact same
  constructor
  case paths => exact paths ▸ map_path_walk_tree calls
  case made =>
    intro call
    rw [mem_walk_tree_iff]
    exact Placement.isLast_iff_of_forall₂ Call.path path_of_result_callOf eq_of_result_callOf
      made call
  case reached =>
    intro path
    have through := congrArg (fun all => ∃ one ∈ all, path <+: one) segments
    simp only [List.mem_map, exists_exists_and_eq_and] at through
    rw [isSome_at?_tree, through]
  case calls =>
    rintro path node found call
    rw [← nodeAt_eq_of_at? found, mem_calls_nodeAt_tree_iff, mem_walk_tree_iff]
  case name =>
    intro path node found
    rw [← nodeAt_eq_of_at? found, name_nodeAt_tree]
  case keys => exact fun _ _ found _ member => name_of_mem_children_tree found member
  case callOrder =>
    intro path node found
    rw [← nodeAt_eq_of_at? found, calls_nodeAt_tree, Placement.map_key_placeAll, ← paths,
      List.filter_map, List.map_map]
    rfl
  case childOrder =>
    intro path node found
    rw [← nodeAt_eq_of_at? found, keys_nodeAt_tree]
    have passed := congrArg (List.filterMap (segmentBehind? path)) segments
    rw [List.filterMap_map, List.filterMap_map] at passed
    exact congrArg List.eraseDups passed
  case filled => exact fun _ _ found inner => walk_ne_nil_of_at?_tree found inner

/-- The wanted operations of a document make a tree of their calls. The notes about replaced
operations count those that are missing from it, and each names the operation that is missing and
the one that took its place. -/
theorem namespaceRoot_isTreeOf {document : Document} (json : document.isJson = true)
    (operationIds : Option (List String)) :
    ∃ root, (Assembly.namespaceRoot document operationIds).result = .ok root ∧
      let kept := document.operations.filter (Assembly.isWanted operationIds)
      let notices := (Assembly.namespaceRoot document operationIds).notices
      root.IsTreeOf kept ∧
        notices.countP Notice.isOperationReplaced +
          (kept.map Operation.callPath).eraseDups.length = kept.length ∧
        ∀ before operation after earlier, kept = before ++ operation :: after →
          IsLast Operation.callPath before earlier → earlier.callPath = operation.callPath →
            .operationReplaced operation.endpoint earlier.endpoint
              (".".intercalate (operation.callPath.segments ++ [operation.callPath.methodName])) ∈
                notices := by
  obtain ⟨root, placed⟩ := Assembly.succeeds_namespaceRoot json operationIds
  obtain ⟨calls, made, same⟩ := (Assembly.result_placeCalls_iff _ _ _).1 placed
  have paths := Placement.map_key_of_forall₂ Call.path path_of_result_callOf made
  have notes := Assembly.filter_notices_placeCalls made (Namespace.empty "")
  subst same
  refine ⟨_, placed, Namespace.isTreeOf_tree made, ?_, ?_⟩
  · have count := Assembly.length_replacements [] calls
    rw [Namespace.tree, List.foldl_nil, List.nil_append, paths, made.length_eq.symm] at count
    rw [List.countP_eq_length_filter]
    exact (congrArg (·.length + _) notes).trans count
  · intro before operation after earlier split last equal
    rw [split] at made
    obtain ⟨first, second, rfl, madeBefore, madeAfter⟩ := Placement.exists_append_of_forall₂ made
    obtain ⟨call, rest, here, _, rfl⟩ := List.forall₂_cons_left_iff.1 madeAfter
    obtain ⟨lastCall, _, there⟩ := Placement.exists_mem_of_forall₂ madeBefore last.mem
    have isLast := (Placement.isLast_iff_of_forall₂ Call.path path_of_result_callOf
      eq_of_result_callOf madeBefore lastCall).2 ⟨earlier, last, there⟩
    have together : lastCall.path = call.path := (path_of_result_callOf _ _ there).trans
      (equal.trans (path_of_result_callOf _ _ here).symm)
    have noted := mem_replacements rest isLast together
    rw [← notes, endpoint_of_result_callOf _ _ here, endpoint_of_result_callOf _ _ there] at noted
    rw [← path_of_result_callOf _ _ here]
    exact (List.mem_filter.1 noted).1

/-- A document with two operations that have the same path, and one that does not. -/
def collidingDocument : Document where
  version := "3.0.0"
  info := ⟨"Stores", "1", none⟩
  servers := []
  schemas := []
  operations := [("/a", "store/get"), ("/b", "store.get"), ("/c", "list")].map fun entry =>
    { path := entry.1, verb := .get, operationId := some entry.2, summary := none
      description := none, tags := [], deprecated := false, parameters := []
      requestBody := none, responses := [] }

theorem namespaceRoot_collidingDocument :
    collidingDocument.isJson = true ∧
      ∃ root, (Assembly.namespaceRoot collidingDocument none).result = .ok root ∧
        root.IsTreeOf collidingDocument.operations ∧
          (Assembly.namespaceRoot collidingDocument none).notices.countP
            Notice.isOperationReplaced = 1 := by
  have json : collidingDocument.isJson = true := by decide
  obtain ⟨root, placed, isTree, count, _⟩ := namespaceRoot_isTreeOf json none
  have all : collidingDocument.operations.filter (Assembly.isWanted none) =
    collidingDocument.operations := rfl
  have distinct : (collidingDocument.operations.map Operation.callPath).eraseDups.length = 2 := by
    decide
  rw [all, distinct] at count
  exact ⟨json, root, placed, all ▸ isTree, Nat.add_right_cancel count⟩

end Namespace

end ClientModel
