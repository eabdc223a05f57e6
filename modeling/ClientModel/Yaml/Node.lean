/-
This file arranges the pieces of a YAML text as a graph of numbered nodes, each with its tag. An
alias is the number of the node it names, which may be a node around it.
-/

import ClientModel.Yaml.Tag
import ClientModel.Yaml.Token

namespace ClientModel.Yaml

/-! ### Nodes -/

/-- What a node is made of; its parts are given by their numbers. -/
inductive NodeBody where
  | scalar (text : String)
  | list (items : List Nat)
  | map (entries : List (Nat × Nat))
  deriving DecidableEq, Repr

/-- A node of a document. -/
structure Node where
  tag : Tag
  body : NodeBody
  deriving DecidableEq, Repr

/-- The node where nothing is written. -/
def Node.empty : Node := ⟨.null, .scalar ""⟩

/-- The nodes of a document by their numbers. -/
structure Graph where
  nodes : Array Node
  /-- The number of the node that is the document. -/
  root : Nat
  /-- Whether a node may be a part of itself. -/
  tied : Bool
  deriving Repr

/-! ### Progress -/

/-- How far the pieces were used: those that are left, the numbers of the anchors so far, and the
nodes so far, of which those that are not complete yet are missing. -/
structure Progress where
  tokens : List Token
  anchors : List (String × Nat)
  nodes : Array (Option Node)
  /-- Whether an alias named a node around it. -/
  tied : Bool

/-- A computation that uses up pieces. -/
abbrev Composing := StateT Progress (Except Error)

namespace Composing

variable {Product : Type}

/-- A complaint about the text. -/
def fail (complaint : Complaint) : Composing Product := throw (.malformed complaint)

/-- The next piece; none at the end. -/
def peek : Composing (Option Token) := do
  match (← get).tokens with
  | .unreadable error :: _ => throw error
  | tokens => pure tokens.head?

/-- Whether the next piece is of a class. -/
def atAny (belongs : Token → Bool) : Composing Bool := do
  pure ((← peek).any belongs)

/-- Whether the next piece is the given one. -/
def atToken (token : Token) : Composing Bool := atAny (· == token)

/-- Uses up a piece. -/
def skip : Composing Unit :=
  modify fun progress => { progress with tokens := progress.tokens.tail }

/-- Uses up the given piece, if it is the next one. -/
def skipIf (token : Token) : Composing Bool := do
  let found ← atToken token
  if found then skip
  pure found

/-- Uses up the given piece. -/
def expect (token : Token) (complaint : Complaint) : Composing Unit := do
  unless ← skipIf token do fail complaint

/-- The number of a new node, which is not complete yet. -/
def reserve : Composing Nat := do
  let number := (← get).nodes.size
  modify fun progress => { progress with nodes := progress.nodes.push none }
  pure number

/-- Completes the node of a number. -/
def complete (number : Nat) (node : Node) : Composing Unit :=
  modify fun progress =>
    { progress with nodes := progress.nodes.setIfInBounds number (some node) }

/-- The number of a new node. -/
def add (node : Node) : Composing Nat := do
  let number ← reserve
  complete number node
  pure number

/-! ### Anchors and tags -/

/-- Remembers the number of the node that an anchor names. -/
def remember (anchor : Option String) (number : Nat) : Composing Unit := do
  if let some name := anchor then
    modify fun progress => { progress with anchors := (name, number) :: progress.anchors }

/-- Complains about an anchor that names a node already. -/
def requireFresh (anchor : Option String) : Composing Unit := do
  if let some name := anchor then
    if (← get).anchors.any (·.1 == name) then fail (.repeatedAnchor name)

/-- Whether a node is not complete yet. -/
def isOpen (number : Nat) : Composing Bool := do
  match (← get).nodes[number]? with
  | some none => pure true
  | _ => pure false

/-- The number of the node that an alias names. -/
def aliased (name : String) : Composing Nat := do
  match (← get).anchors.find? (·.1 == name) with
  | none => fail (.undefinedAlias name)
  | some (_, number) =>
    if ← isOpen number then modify fun progress => { progress with tied := true }
    pure number

/-- The handles of tags and what they stand for. -/
abbrev Handles := List (String × String)

/-- The full name that a tag writes. -/
def tagName (handles : Handles) (handle : Option String) (suffix : String) : Composing String :=
  match handle with
  | none => pure suffix
  | some handle =>
    match handles.find? (·.1 == handle) with
    | some (_, leading) => pure (leading ++ suffix)
    | none => fail (.undefinedHandle handle)

/-- How a tag is written, if one comes next: its handle, and what follows it. -/
def tagHere : Composing (Option (Option String × String)) := do
  match ← peek with
  | some (.tag handle suffix) =>
    skip
    pure (some (handle, suffix))
  | _ => pure none

/-- The name of an anchor, if one comes next. -/
def anchorHere : Composing (Option String) := do
  match ← peek with
  | some (.anchor name) =>
    skip
    pure (some name)
  | _ => pure none

/-- What stands in front of a node: an anchor and a tag, in either order. A single exclamation mark
is a tag that says nothing. -/
structure Properties where
  anchor : Option String
  tagName : Option String

/-- The anchor and the written tag in front of a node. -/
def writtenProperties : Composing (Option String × Option (Option String × String)) := do
  match ← anchorHere with
  | some anchor => pure (some anchor, ← tagHere)
  | none =>
    let written ← tagHere
    let anchor ← if written.isSome then anchorHere else pure none
    pure (anchor, written)

/-- The properties of a node. -/
def properties (handles : Handles) : Composing Properties := do
  let (anchor, written) ← writtenProperties
  match written with
  | none => pure ⟨anchor, none⟩
  | some (handle, suffix) => pure ⟨anchor, some (← tagName handles handle suffix)⟩

/-- The tag that properties ask for, or a default. -/
def Properties.tagOr (properties : Properties) (fallback : Tag) : Tag :=
  match properties.tagName with
  | none => fallback
  | some name => if name == "!" then fallback else .ofName name

/-- The tag of a scalar: without a tag, a plain one has the tag of its form and any other is a
text. A tag that says nothing makes it plain. -/
def Properties.scalarTag (properties : Properties) (content : String) (plain : Bool) : Tag :=
  match properties.tagName with
  | none => if plain then .ofPlain content else .text
  | some name => if name == "!" then .ofPlain content else .ofName name

/-! ### Nodes -/

/-- The deepest nesting of nodes that is followed. -/
def deepest : Nat := 490

/-- What holds around a node: the handles of tags, and how deep it is. -/
structure Scope where
  handles : Handles
  depth : Nat

/-- The scope of the parts of a node. -/
def Scope.inner (scope : Scope) : Scope := { scope with depth := scope.depth + 1 }

/-- The number of an empty node. -/
def empty : Composing Nat := add .empty

/-- A node, or an empty one in front of a piece of a class. -/
def emptyBefore (ends : Token → Bool) (node : Composing Nat) : Composing Nat := do
  match ← peek with
  | none => node
  | some token => if ends token then empty else node

/-- The pieces in front of which an item of a list without a block of its own is empty. -/
def endsItem (token : Token) : Bool :=
  [.entry, .key, .value, .closeBlock].contains token

/-- The pieces in front of which a key or a value of a block is empty. -/
def endsField (token : Token) : Bool := [.key, .value, .closeBlock].contains token

mutual

/-- A node. Blocks may start only outside of brackets; the list of a block may stand at the column
of the key it belongs to, and then has no pieces that open and close it. -/
def node (scope : Scope) (block listAtKey : Bool) : (fuel : Nat) → Composing Nat
  | 0 => fail .missingContent
  | fuel + 1 => do
    match ← peek with
    | some (.alias name) =>
      skip
      aliased name
    | _ =>
      if deepest < scope.depth then throw .endless
      let properties ← properties scope.handles
      discard peek
      requireFresh properties.anchor
      let number ← reserve
      remember properties.anchor number
      let found ← content scope.inner block listAtKey properties fuel
      complete number found
      pure number

/-- The content of a node behind its properties. -/
def content (scope : Scope) (block listAtKey : Bool) (properties : Properties) :
    (fuel : Nat) → Composing Node
  | 0 => fail .missingContent
  | fuel + 1 => do
    match ← peek, block, listAtKey with
    | some .entry, _, true =>
      return ⟨properties.tagOr .list, .list (← listAtKeyItems scope fuel)⟩
    | some (.scalar text plain), _, _ =>
      skip
      return ⟨properties.scalarTag text plain, .scalar text⟩
    | some .openFlowList, _, _ =>
      skip
      return ⟨properties.tagOr .list, .list (← flowItems scope true fuel)⟩
    | some .openFlowMap, _, _ =>
      skip
      return ⟨properties.tagOr .map, .map (← flowEntries scope true fuel)⟩
    | some .openBlockList, true, _ =>
      skip
      return ⟨properties.tagOr .list, .list (← blockItems scope fuel)⟩
    | some .openBlockMap, true, _ =>
      skip
      return ⟨properties.tagOr .map, .map (← blockEntries scope fuel)⟩
    | _, _, _ =>
      if properties.anchor.isNone && properties.tagName.isNone then fail .missingContent
      else return ⟨properties.scalarTag "" properties.tagName.isNone, .scalar ""⟩

/-- The items of a block. -/
def blockItems (scope : Scope) : (fuel : Nat) → Composing (List Nat)
  | 0 => fail .unclosedBlock
  | fuel + 1 => do
    if ← skipIf .entry then
      let item ← emptyBefore (fun token => token == .entry || token == .closeBlock)
        (node scope true false fuel)
      return item :: (← blockItems scope fuel)
    else
      expect .closeBlock .unclosedBlock
      return []

/-- The items of a list that stands at the column of its key. -/
def listAtKeyItems (scope : Scope) : (fuel : Nat) → Composing (List Nat)
  | 0 => fail .unclosedBlock
  | fuel + 1 => do
    if ← skipIf .entry then
      let item ← emptyBefore endsItem (node scope true false fuel)
      return item :: (← listAtKeyItems scope fuel)
    else return []

/-- The entries of a block. -/
def blockEntries (scope : Scope) : (fuel : Nat) → Composing (List (Nat × Nat))
  | 0 => fail .unclosedBlock
  | fuel + 1 => do
    if ← skipIf .key then
      let key ← emptyBefore endsField (node scope true true fuel)
      let value ← blockValue scope fuel
      return (key, value) :: (← blockEntries scope fuel)
    else if ← skipIf .closeBlock then return []
    else fail .unclosedBlock

/-- The value of an entry of a block; without a colon it is empty. -/
def blockValue (scope : Scope) : (fuel : Nat) → Composing Nat
  | 0 => fail .unclosedBlock
  | fuel + 1 => do
    if ← skipIf .value then emptyBefore endsField (node scope true true fuel)
    else empty

/-- The items of a list in brackets. An item that starts with a key is a map of one entry. -/
def flowItems (scope : Scope) (first : Bool) : (fuel : Nat) → Composing (List Nat)
  | 0 => fail .unclosedFlow
  | fuel + 1 => do
    if ← skipIf .closeFlowList then return []
    else
      if !first then expect .comma .unclosedFlow
      if ← skipIf .key then
        let ends := fun token => token == .comma || token == .closeFlowList
        let key ← emptyBefore (fun token => token == .value || ends token)
          (node scope false false fuel)
        let value ← if ← skipIf .value then emptyBefore ends (node scope false false fuel)
          else empty
        let pair ← add ⟨.map, .map [(key, value)]⟩
        return pair :: (← flowItems scope false fuel)
      else if ← skipIf .closeFlowList then return []
      else
        let item ← node scope false false fuel
        return item :: (← flowItems scope false fuel)

/-- The entries of a map in braces. A node that is no key has an empty value. -/
def flowEntries (scope : Scope) (first : Bool) : (fuel : Nat) → Composing (List (Nat × Nat))
  | 0 => fail .unclosedFlow
  | fuel + 1 => do
    if ← skipIf .closeFlowMap then return []
    else
      if !first then expect .comma .unclosedFlow
      if ← skipIf .key then
        let ends := fun token => token == .comma || token == .closeFlowMap
        let key ← emptyBefore (fun token => token == .value || ends token)
          (node scope false false fuel)
        let value ← if ← skipIf .value then emptyBefore ends (node scope false false fuel)
          else empty
        return (key, value) :: (← flowEntries scope false fuel)
      else if ← skipIf .closeFlowMap then return []
      else
        let key ← node scope false false fuel
        return (key, ← empty) :: (← flowEntries scope false fuel)

end

/-! ### Documents -/

/-- The handles that every document knows. -/
def commonHandles : Handles := [("!", "!"), ("!!", commonHandle)]

/-- The directives in front of a document: the handles they declare. -/
def directives (declared : Handles) (versionSeen : Bool) : (fuel : Nat) → Composing Handles
  | 0 => pure declared
  | fuel + 1 => do
    match ← peek with
    | some (.directive (.version major)) =>
      skip
      if versionSeen then fail .repeatedDirective
      if major != 1 then fail .unsupportedVersion
      directives declared true fuel
    | some (.directive (.tagHandle handle leading)) =>
      skip
      if declared.any (·.1 == handle) then fail .repeatedDirective
      directives (declared ++ [(handle, leading)]) versionSeen fuel
    | some (.directive .other) =>
      skip
      directives declared versionSeen fuel
    | _ => pure declared

/-- A document that starts with directives or a mark. -/
def markedDocument (fuel : Nat) : Composing Nat := do
  let handles ← directives [] false fuel
  expect .documentStart .missingDocumentStart
  let ends := fun token => match token with
    | .directive _ | .documentStart | .documentEnd => true
    | _ => false
  match ← peek with
  | none => empty
  | some token =>
    if ends token then empty else node ⟨handles ++ commonHandles, 0⟩ true false fuel

/-- Uses up marks for the end of a document. -/
def skipDocumentEnds : (fuel : Nat) → Composing Unit
  | 0 => pure ()
  | fuel + 1 => do
    if ← skipIf .documentEnd then skipDocumentEnds fuel

/-- The only document of a text; none if the text holds nothing. -/
def document (fuel : Nat) : Composing (Option Nat) := do
  match ← peek with
  | none => return none
  | some token =>
    let found ← match token with
      | .directive _ | .documentStart => markedDocument fuel
      | _ => node ⟨commonHandles, 0⟩ true false fuel
    skipDocumentEnds fuel
    if (← peek).isSome then fail .severalDocuments
    return some found

/-- The graph of a document, if there is one, when all pieces are used up. -/
def graph (fuel : Nat) : Composing (Option Graph) := do
  match ← document fuel with
  | none => pure none
  | some root =>
    let progress ← get
    pure (some ⟨progress.nodes.map fun node => node.getD .empty, root, progress.tied⟩)

end Composing

/-- The graph that pieces make. Every step in depth uses up a piece or comes before one that does,
so three times the number of pieces bounds the depth. -/
def Graph.ofTokens (tokens : List Token) : Except Error (Option Graph) :=
  (Composing.graph (3 * tokens.length + 3)).run' ⟨tokens, [], #[], false⟩

end ClientModel.Yaml
