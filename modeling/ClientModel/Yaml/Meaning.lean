/-
This file says which value a graph stands for, and what can keep it from standing for one. Nodes
are understood round by round: a list or a map is known to be one before its parts are looked at,
and those of one round are all looked at before any of their parts are. So whatever is wrong on an
upper level is found before anything below it, and a part may be a list or a map around it.
-/

import ClientModel.Value.Basic
import ClientModel.Yaml.Merging
import ClientModel.Yaml.Scalar
import ClientModel.Yaml.Token.Layout

namespace ClientModel.Yaml

/-! ### What nodes stand for -/

/-- What a node stands for; its parts are given by their numbers. -/
inductive Made where
  | scalar (content : Scalar)
  | list (items : List Nat)
  | map (entries : List (Scalar × Nat))
  | set (members : List Scalar)
  | pairs (entries : List NodeEntry)
  deriving Repr

/-- The numbers of the parts. -/
def Made.parts : Made → List Nat
  | .scalar _ => []
  | .list items => items
  | .map entries => entries.map Prod.snd
  | .set _ => []
  | .pairs entries => entries.flatMap fun entry => [entry.1, entry.2]

/-- What is known of a graph: its nodes as merging left them, what they stand for as far as they
were met, and the lists and maps whose parts were not looked at yet, the last one first. -/
structure Making where
  nodes : Array Node
  made : Array (Option Made)
  waiting : List Nat

/-- A computation that understands nodes. -/
abbrev Understanding := StateT Making (Except Error)

namespace Understanding

variable {Product : Type}

/-- A complaint about the text. -/
def fail (complaint : Complaint) : Understanding Product := throw (.malformed complaint)

/-- The node of a number. -/
def node (number : Nat) : Understanding Node := do
  pure (nodeAt (← get).nodes number)

/-- Remembers what a node stands for. -/
def remember (number : Nat) (found : Made) : Understanding Unit :=
  modify fun making => { making with made := making.made.setIfInBounds number (some found) }

/-- What a node that was met stands for. -/
def remembered (number : Nat) : Understanding (Option Made) := do
  pure ((← get).made.getD number none)

/-- Puts off looking at the parts of a node. -/
def postpone (number : Nat) (empty : Made) : Understanding Unit := do
  remember number empty
  modify fun making => { making with waiting := number :: making.waiting }

/-! ### Meeting a node -/

/-- The item of the first entry whose key stands for a value. -/
def valueItem? (nodes : Array Node) (entries : List NodeEntry) : Option Nat :=
  (entries.find? fun entry => keyTag nodes entry == .selfValue).map Prod.snd

/-- The text that a node gives where its tag asks for a scalar: its own, or that of the item under
the key that stands for a value. -/
def textOf (nodes : Array Node) : (steps : Nat) → (number : Nat) → Except Error String
  | 0, _ => .error .endless
  | steps + 1, number =>
    match (nodeAt nodes number).body with
    | .scalar text => .ok text
    | .list _ => .error (.malformed .unfitTag)
    | .map entries =>
      match valueItem? nodes entries with
      | some item => textOf nodes steps item
      | none => .error (.malformed .unfitTag)

/-- The scalar that a node stands for. The text of a time has to be its own. -/
def scalarAt (nodes : Array Node) (number : Nat) : Except Error Scalar := do
  let node := nodeAt nodes number
  let text ← textOf nodes (nodes.size + 1) number
  match node.tag, node.body with
  | .time, .map _ => .error (.unfit .timeOfMap)
  | tag, _ => scalarOf tag text

/-- Meets a node, which was met before or is new. -/
def meet (number : Nat) : Understanding Unit := do
  if (← remembered number).isSome then return
  match (← node number).tag with
  | .list => postpone number (.list [])
  | .map => postpone number (.map [])
  | .set => postpone number (.set [])
  | .orderedEntries | .pairs => postpone number (.pairs [])
  | .merge | .selfValue | .unknown _ => fail .unknownTag
  | _ => remember number (.scalar (← scalarAt (← get).nodes number))

/-! ### Looking at parts -/

/-- Meets a node that is a key: it has to stand for a scalar. -/
def meetKey (number : Nat) : Understanding Scalar := do
  meet number
  match ← remembered number with
  | some (.scalar content) => pure content
  | _ => fail .compoundKey

/-- The entries of a map: the first of equal keys stays where it is, with the last item. -/
def mapEntries (number : Nat) : Understanding (List (Scalar × Nat)) := do
  match (← node number).body with
  | .map _ =>
    let nodes ← merge number (← get).nodes
    modify fun making => { making with nodes }
    (entriesOf nodes number).foldlM (fun written entry => do
      let key ← meetKey entry.1
      meet entry.2
      pure (Ordered.putBy Scalar.sameKey key entry.2 written)) []
  | _ => fail .unfitTag

/-- The only entry of a map. -/
def onlyEntry (number : Nat) : Understanding NodeEntry := do
  match (← node number).body with
  | .map [entry] =>
    meet entry.1
    meet entry.2
    pure entry
  | _ => fail .unfitTag

/-- The items of a list. -/
def listItems (number : Nat) : Understanding (List Nat) := do
  match (← node number).body with
  | .list items => pure items
  | _ => fail .unfitTag

/-- Looks at the parts of a list or a map. -/
def fill (number : Nat) : Understanding Unit := do
  match (← node number).tag with
  | .list =>
    let items ← listItems number
    items.forM meet
    remember number (.list items)
  | .map => remember number (.map (← mapEntries number))
  | .set => remember number (.set ((← mapEntries number).map Prod.fst))
  | .orderedEntries | .pairs =>
    let items ← listItems number
    remember number (.pairs (← items.mapM onlyEntry))
  | _ => pure ()

/-- Looks at the parts of all that wait, and then at what waits by then. No node waits twice. -/
def fillAll : (rounds : Nat) → Understanding Unit
  | 0 => pure ()
  | rounds + 1 => do
    let waiting := (← get).waiting
    unless waiting.isEmpty do
      modify fun making => { making with waiting := [] }
      waiting.reverse.forM fill
      fillAll rounds

/-- Understands a node and all below it. -/
def understand (number : Nat) : Understanding Unit := do
  meet number
  fillAll ((← get).nodes.size + 1)

end Understanding

/-! ### Values -/

/-- What the nodes of a graph stand for. -/
abbrev MadeGraph := Array (Option Made)

namespace MadeGraph

/-- What a node stands for. -/
def at? (made : MadeGraph) (number : Nat) : Option Made := made.getD number none

/-- The numbers of the parts of a node. -/
def partsOf (made : MadeGraph) (number : Nat) : List Nat :=
  ((made.at? number).map Made.parts).getD []

/-- Marks everything that can be reached from some numbers. -/
def spread (made : MadeGraph) : (steps : Nat) → List Nat → Array Bool → Array Bool
  | 0, _, marked => marked
  | _ + 1, [], marked => marked
  | steps + 1, number :: rest, marked =>
    if marked.getD number true then spread made steps rest marked
    else spread made steps (made.partsOf number ++ rest) (marked.setIfInBounds number true)

/-- The number of all parts of all nodes. -/
def partCount (made : MadeGraph) : Nat :=
  made.foldl (fun sum found => sum + ((found.map Made.parts).getD []).length) 0

/-- What can be reached from the parts of a node. -/
def below (made : MadeGraph) (number : Nat) : Array Bool :=
  let parts := made.partsOf number
  spread made (made.partCount + parts.length + 1) parts (Array.replicate made.size false)

/-- Which nodes are parts of themselves. -/
def knots (made : MadeGraph) : Array Bool :=
  (Array.range made.size).map fun number => (made.below number).getD number false

/-- Which nodes have a part that is a part of itself. -/
def tied (made : MadeGraph) (knots : Array Bool) : Array Bool :=
  (Array.range made.size).map fun number =>
    (made.below number).zipWith (· && ·) knots |>.any id

/-- What is known of the parts that are parts of themselves: which those are, and which nodes have
any. -/
structure Ties where
  knots : Array Bool
  tied : Array Bool

/-- The ties of a graph; there are none where no alias names a node around it. -/
def tiesOf (made : MadeGraph) (possible : Bool) : Ties :=
  if possible then ⟨made.knots, made.tied made.knots⟩ else ⟨#[], #[]⟩

/-- Values that were found already. -/
abbrev Known := Array (Option Value)

/-- Whether a node stands for a map. -/
def isMap (made : MadeGraph) (number : Nat) : Bool :=
  match made.at? number with
  | some (.map _) => true
  | _ => false

/-- The value that is made of parts whose values are found by `inner`. -/
def assemble (inner : Nat → StateM Known Value) : Made → StateM Known Value
  | .scalar content => pure (.scalar content)
  | .list items => do pure (.list (← items.mapM inner))
  | .map entries => do
    pure (.map (← entries.mapM fun entry => do pure (entry.1, ← inner entry.2)))
  | .set members => pure (.set members)
  | .pairs entries => do
    pure (.list (← entries.mapM fun entry => do pure (.pair (← inner entry.1) (← inner entry.2))))

/-- The value of a node inside the given knots, and no deeper than `steps`. The values of nodes
without ties are found once. -/
def valueIn (made : MadeGraph) (ties : Ties) :
    (steps : Nat) → (around : List Nat) → Nat → StateM Known Value
  | 0, _, _ => pure .null
  | steps + 1, around, number => do
    if let some known := (← get).getD number none then return known
    if around.contains number then return .again number (made.isMap number)
    let found := (made.at? number).getD (.scalar .null)
    if ties.knots.getD number false then
      let body ← assemble (valueIn made ties steps (number :: around)) found
      return .knot number body
    let value ← assemble (valueIn made ties steps around) found
    unless ties.tied.getD number false do
      modify fun known => known.setIfInBounds number (some value)
    return value

/-- The value of a node. -/
def value (made : MadeGraph) (possible : Bool) (number : Nat) : Value :=
  ((made.valueIn (made.tiesOf possible) (made.size + 1) [] number).run
    (Array.replicate made.size none)).1

end MadeGraph

/-- The value of a graph. -/
def Graph.value? (graph : Graph) : Except Error Value := do
  let start : Making := ⟨graph.nodes, Array.replicate graph.nodes.size none, []⟩
  let (_, making) ← (Understanding.understand graph.root).run start
  pure (MadeGraph.value making.made graph.tied graph.root)

/-! ### Texts -/

/-- The value of a YAML text; null for a text that holds nothing. -/
def read (text : String) : Except Error Value := do
  match ← Graph.ofTokens (tokens text.toList) with
  | none => pure .null
  | some graph => graph.value?

end ClientModel.Yaml
