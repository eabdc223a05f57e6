/-
This file merges maps of a graph. An entry under a merge key gives the entries of the map that it
holds, or of a list of maps, to the map in which it stands; they come in front of its own entries,
and of the maps of a list the last one comes first. A map that is merged is itself merged first,
for good. The key that stands for the value of a map is a text there.
-/

import ClientModel.Yaml.Node

namespace ClientModel.Yaml

/-- An entry of a node: the numbers of its key and of its item. -/
abbrev NodeEntry := Nat × Nat

/-! ### Looking at nodes -/

/-- The node of a number. -/
def nodeAt (nodes : Array Node) (number : Nat) : Node := nodes.getD number .empty

/-- The entries of a node that is a map, none for any other. -/
def entriesOf (nodes : Array Node) (number : Nat) : List NodeEntry :=
  match (nodeAt nodes number).body with
  | .map entries => entries
  | _ => []

/-- The tag of the key of an entry. -/
def keyTag (nodes : Array Node) (entry : NodeEntry) : Tag := (nodeAt nodes entry.1).tag

/-! ### Changing nodes -/

/-- Gives other entries to a map. -/
def withEntries (number : Nat) (entries : List NodeEntry) (nodes : Array Node) : Array Node :=
  nodes.modify number fun node => { node with body := .map entries }

/-- Makes a text of every key that stands for a value. -/
def withTextKeys (entries : List NodeEntry) (nodes : Array Node) : Array Node :=
  entries.foldl (fun nodes entry =>
    if keyTag nodes entry == .selfValue then
      nodes.modify entry.1 fun node => { node with tag := .text }
    else nodes) nodes

/-! ### Merging -/

/-- The first entry that merges, with the entries in front of it and those behind it. -/
def splitAtMerge? (nodes : Array Node) :
    List NodeEntry → Option (List NodeEntry × NodeEntry × List NodeEntry)
  | [] => none
  | entry :: rest =>
    if keyTag nodes entry == .merge then some ([], entry, rest)
    else (splitAtMerge? nodes rest).map fun (before, found, behind) =>
      (entry :: before, found, behind)

/-- What is known while a map is merged: all nodes, and the entries that it was given so far. -/
structure Merging where
  nodes : Array Node
  given : List NodeEntry

mutual

/-- Merges the map of a number. `steps` bounds the entries that merge. -/
def mergeInto (number : Nat) : (steps : Nat) → Merging → Except Error Merging
  | 0, _ => .error .endless
  | steps + 1, merging =>
    let entries := entriesOf merging.nodes number
    match splitAtMerge? merging.nodes entries with
    | none =>
      let nodes := withTextKeys entries merging.nodes
      .ok { merging with
        nodes := if merging.given.isEmpty then nodes
          else withEntries number (merging.given ++ entries) nodes }
    | some (before, (_, source), behind) => do
      let nodes := withEntries number (before ++ behind) (withTextKeys before merging.nodes)
      let found ← mergeFrom source steps nodes
      mergeInto number steps { found with given := merging.given ++ found.given }

/-- The entries that a node gives where it is merged. -/
def mergeFrom (source : Nat) : (steps : Nat) → Array Node → Except Error Merging
  | 0, _ => .error .endless
  | steps + 1, nodes =>
    match (nodeAt nodes source).body with
    | .map _ => mergedEntries source steps nodes
    | .list items => do
      let (nodes, found) ← mergeAll items steps nodes
      pure ⟨nodes, found.reverse.flatten⟩
    | .scalar _ => .error (.malformed .unfitTag)

/-- The entries of each map of a list after merging. -/
def mergeAll : (items : List Nat) → (steps : Nat) → Array Node →
    Except Error (Array Node × List (List NodeEntry))
  | _, 0, _ => .error .endless
  | [], _ + 1, nodes => .ok (nodes, [])
  | item :: rest, steps + 1, nodes =>
    match (nodeAt nodes item).body with
    | .map _ => do
      let merged ← mergedEntries item steps nodes
      let (nodes, found) ← mergeAll rest steps merged.nodes
      pure (nodes, merged.given :: found)
    | _ => .error (.malformed .unfitTag)

/-- The entries of a map after merging. -/
def mergedEntries (number : Nat) : (steps : Nat) → Array Node → Except Error Merging
  | 0, _ => .error .endless
  | steps + 1, nodes => do
    let merged ← mergeInto number steps ⟨nodes, []⟩
    pure ⟨merged.nodes, entriesOf merged.nodes number⟩

end

/-- How many entries of a node merge. -/
def mergeCount (nodes : Array Node) (node : Node) : Nat :=
  match node.body with
  | .map entries => (entries.filter fun entry => keyTag nodes entry == .merge).length
  | _ => 0

/-- How many items a node has. -/
def itemCount (node : Node) : Nat :=
  match node.body with
  | .list items => items.length
  | _ => 0

/-- A bound of the steps in depth that a merging takes: every entry that merges is used once, and
takes four steps and one for each item of the list that it may hold. -/
def mergingBound (nodes : Array Node) : Nat :=
  let merges := nodes.foldl (fun sum node => sum + mergeCount nodes node) 0
  let items := nodes.foldl (fun sum node => sum + itemCount node) 0
  (merges + 1) * (items + 4)

/-- The nodes after the map of a number is merged. -/
def merge (number : Nat) (nodes : Array Node) : Except Error (Array Node) :=
  let entries := entriesOf nodes number
  match splitAtMerge? nodes entries with
  | none => .ok (withTextKeys entries nodes)
  | some _ => (mergeInto number (mergingBound nodes) ⟨nodes, []⟩).map Merging.nodes

end ClientModel.Yaml
