/-
This file says at which pieces composing a YAML graph gives up. A computation with a state keeps a
property of its states, and ends with no fault but an allowed one, if its steps do. The main
statement is that composing uses up the pieces from the front, and complains about the content of a
scalar only at a piece that could not be read.
-/

import ClientModel.Proofs.Outcome
import ClientModel.Yaml.Node

namespace ClientModel

/-! ### Computations with a state -/

section

variable {State Fault Product Further Item : Type}

/-- A computation that gives products of a kind and leads from good states to good states, or ends
with an allowed fault. -/
def Yields (good : State → Prop) (allowed : Fault → Prop) (yields : Product → Prop)
    (computation : StateT State (Except Fault) Product) : Prop :=
  ∀ state, good state →
    Ends (fun result => yields result.1 ∧ good result.2) allowed (computation.run state)

namespace Yields

variable {good : State → Prop} {allowed : Fault → Prop} {yields : Product → Prop}
  {yieldsFurther : Further → Prop}

theorem pure {product : Product} (right : yields product) :
    Yields good allowed yields (Pure.pure product) :=
  fun _ start => ⟨right, start⟩

theorem get : Yields good allowed good MonadState.get :=
  fun _ start => ⟨start, start⟩

theorem changed {change : State → State} (keeps : ∀ state, good state → good (change state)) :
    Yields good allowed (fun _ => True) (modify change) :=
  fun state start => ⟨trivial, keeps state start⟩

theorem throw {fault : Fault} (right : allowed fault) :
    Yields good allowed yields (throwThe Fault fault) :=
  fun _ _ => right

theorem lift {outcome : Except Fault Product} (ends : Ends yields allowed outcome) :
    Yields good allowed yields (liftM outcome) := by
  intro state start
  cases outcome with
  | ok product => exact ⟨ends, start⟩
  | error fault => exact ends

theorem bind {first : StateT State (Except Fault) Product}
    {second : Product → StateT State (Except Fault) Further}
    (begins : Yields good allowed yields first)
    (goesOn : ∀ product, yields product → Yields good allowed yieldsFurther (second product)) :
    Yields good allowed yieldsFurther (first >>= second) := by
  intro state start
  rw [StateT.run_bind]
  exact (begins state start).bind fun result ⟨right, next⟩ => goesOn result.1 right result.2 next

/-- Two steps, where it does not matter what the first gives. -/
theorem andThen {first : StateT State (Except Fault) Product}
    {second : Product → StateT State (Except Fault) Further}
    (begins : Yields good allowed (fun _ => True) first)
    (goesOn : ∀ product, Yields good allowed yieldsFurther (second product)) :
    Yields good allowed yieldsFurther (first >>= second) :=
  begins.bind fun product _ => goesOn product

theorem discard {computation : StateT State (Except Fault) Product}
    (right : Yields good allowed yields computation) :
    Yields good allowed (fun _ => True) (Functor.discard computation) :=
  right.bind fun _ _ => pure trivial

theorem forM {step : Item → StateT State (Except Fault) PUnit} {items : List Item}
    (each : ∀ item, Yields good allowed (fun _ => True) (step item)) :
    Yields good allowed (fun _ => True) (items.forM step) := by
  induction items with
  | nil => exact pure trivial
  | cons item rest inductionHypothesis => exact (each item).andThen fun _ => inductionHypothesis

theorem mapM {step : Item → StateT State (Except Fault) Product} {items : List Item}
    (each : ∀ item, Yields good allowed (fun _ => True) (step item)) :
    Yields good allowed (fun _ => True) (items.mapM step) := by
  induction items with
  | nil => exact pure trivial
  | cons item rest inductionHypothesis =>
    rw [List.mapM_cons]
    exact (each item).andThen fun _ => inductionHypothesis.andThen fun _ => pure trivial

theorem foldlM {step : Product → Item → StateT State (Except Fault) Product} {items : List Item}
    (each : ∀ before item, Yields good allowed (fun _ => True) (step before item))
    (start : Product) : Yields good allowed (fun _ => True) (items.foldlM step start) := by
  induction items generalizing start with
  | nil => exact pure trivial
  | cons item rest inductionHypothesis =>
    rw [List.foldlM_cons]
    exact (each start item).andThen inductionHypothesis

end Yields

end

namespace Yaml

/-! ### Composing -/

/-- An error that is not about the content of a scalar. -/
def Error.IsFormal (error : Error) : Prop := ∀ fault, error ≠ .unfit fault

theorem isFormal_malformed (complaint : Complaint) : (Error.malformed complaint).IsFormal := nofun

theorem isFormal_endless : Error.endless.IsFormal := nofun

/-- An error that, if it is about the content of a scalar, is that of a piece. -/
def Error.IsFoundAmong (tokens : List Token) (error : Error) : Prop :=
  ∀ fault, error = .unfit fault → .unreadable error ∈ tokens

theorem Error.IsFormal.isFoundAmong {tokens : List Token} {error : Error}
    (formal : error.IsFormal) : error.IsFoundAmong tokens :=
  fun fault same => absurd same (formal fault)

namespace Composing

variable {all : List Token} {Product : Type}

/-- A computation that uses up pieces of a list from its front, and gives up as one of them says. -/
def Keeps (all : List Token) (computation : Composing Product) : Prop :=
  Yields (fun progress => progress.tokens <:+ all) (Error.IsFoundAmong all) (fun _ => True)
    computation

theorem keeps_pure (product : Product) : Keeps all (pure product) := Yields.pure trivial

theorem keeps_fail (complaint : Complaint) :
    Keeps all (fail complaint : Composing Product) :=
  Yields.throw (isFormal_malformed complaint).isFoundAmong

theorem keeps_peek : Keeps all peek := by
  unfold peek
  refine Yields.get.bind fun progress suffix => ?_
  split
  · next error rest next_ =>
    refine Yields.throw fun fault _ => suffix.subset ?_
    rw [next_]
    exact List.mem_cons_self
  · exact keeps_pure _

theorem keeps_atAny (belongs : Token → Bool) : Keeps all (atAny belongs) :=
  .andThen keeps_peek fun _ => keeps_pure _

theorem keeps_skip : Keeps all skip :=
  Yields.changed fun _ suffix => (List.tail_suffix _).trans suffix

theorem keeps_skipIf (token : Token) : Keeps all (skipIf token) := by
  unfold skipIf
  refine (keeps_atAny _).andThen fun found => ?_
  split
  · exact .andThen keeps_skip fun _ => keeps_pure _
  · exact keeps_pure _

theorem keeps_expect (token : Token) (complaint : Complaint) :
    Keeps all (expect token complaint) := by
  unfold expect
  refine (keeps_skipIf token).andThen fun found => ?_
  split
  · exact keeps_pure _
  · exact keeps_fail _

theorem keeps_reserve : Keeps all reserve :=
  Yields.get.bind fun _ _ =>
    have pushed : Keeps all
        (modify fun progress => { progress with nodes := progress.nodes.push none }) :=
      Yields.changed fun _ suffix => suffix
    pushed.andThen fun _ => keeps_pure _

theorem keeps_complete (number : Nat) (node : Node) : Keeps all (complete number node) :=
  Yields.changed fun _ suffix => suffix

theorem keeps_add (node : Node) : Keeps all (add node) :=
  .andThen keeps_reserve fun _ => (keeps_complete _ _).andThen fun _ => keeps_pure _

theorem keeps_remember (anchor : Option String) (number : Nat) :
    Keeps all (remember anchor number) := by
  unfold remember
  split
  · exact Yields.changed fun _ suffix => suffix
  · exact keeps_pure _

theorem keeps_requireFresh (anchor : Option String) : Keeps all (requireFresh anchor) := by
  unfold requireFresh
  split
  · refine Yields.get.bind fun progress _ => ?_
    split
    · exact keeps_fail _
    · exact keeps_pure _
  · exact keeps_pure _

theorem keeps_isOpen (number : Nat) : Keeps all (isOpen number) := by
  unfold isOpen
  refine Yields.get.bind fun progress _ => ?_
  split <;> exact keeps_pure _

theorem keeps_aliased (name : String) : Keeps all (aliased name) := by
  unfold aliased
  refine Yields.get.bind fun progress _ => ?_
  split
  · exact keeps_fail _
  · refine (keeps_isOpen _).andThen fun open_ => ?_
    split
    · have tied : Keeps all (modify fun progress => { progress with tied := true }) :=
        Yields.changed fun _ suffix => suffix
      exact tied.andThen fun _ => keeps_pure _
    · exact keeps_pure _

theorem keeps_tagName (handles : Handles) (handle : Option String) (suffix : String) :
    Keeps all (tagName handles handle suffix) := by
  unfold tagName
  split
  · exact keeps_pure _
  · split
    · exact keeps_pure _
    · exact keeps_fail _

theorem keeps_tagHere : Keeps all tagHere := by
  unfold tagHere
  refine .andThen keeps_peek fun next_ => ?_
  split
  · exact .andThen keeps_skip fun _ => keeps_pure _
  · exact keeps_pure _

theorem keeps_anchorHere : Keeps all anchorHere := by
  unfold anchorHere
  refine .andThen keeps_peek fun next_ => ?_
  split
  · exact .andThen keeps_skip fun _ => keeps_pure _
  · exact keeps_pure _

theorem keeps_writtenProperties : Keeps all writtenProperties := by
  unfold writtenProperties
  refine .andThen keeps_anchorHere fun anchor => ?_
  split
  · exact .andThen keeps_tagHere fun _ => keeps_pure _
  · refine .andThen keeps_tagHere fun written => ?_
    split
    · exact .andThen keeps_anchorHere fun _ => keeps_pure _
    · exact keeps_pure _

theorem keeps_properties (handles : Handles) : Keeps all (properties handles) := by
  unfold properties
  refine .andThen keeps_writtenProperties fun (anchor, written) => ?_
  dsimp only
  split
  · exact keeps_pure _
  · exact (keeps_tagName _ _ _).andThen fun _ => keeps_pure _

theorem keeps_empty : Keeps all empty := keeps_add _

theorem keeps_emptyBefore (ends : Token → Bool) {node : Composing Nat} (inner : Keeps all node) :
    Keeps all (emptyBefore ends node) := by
  unfold emptyBefore
  refine .andThen keeps_peek fun next_ => ?_
  split
  · exact inner
  · split
    · exact keeps_empty
    · exact inner

/-- A step that is made only under a condition, and what follows it in either case. -/
theorem keeps_conditional {condition : Prop} [Decidable condition] {step : Composing Unit}
    (stepped : Keeps all step) {rest : Unit → Composing Product}
    (further : ∀ done, Keeps all (rest done)) :
    Keeps all (if condition then step >>= rest else rest ()) := by
  split
  · exact stepped.andThen further
  · exact further ()

/-- That nodes and their parts are composed so, as far as some steps in depth lead. -/
structure KeepsWithin (all : List Token) (fuel : Nat) : Prop where
  node : ∀ scope block listAtKey, Keeps all (node scope block listAtKey fuel)
  content : ∀ scope block listAtKey properties,
    Keeps all (content scope block listAtKey properties fuel)
  blockItems : ∀ scope, Keeps all (blockItems scope fuel)
  listAtKeyItems : ∀ scope, Keeps all (listAtKeyItems scope fuel)
  blockEntries : ∀ scope, Keeps all (blockEntries scope fuel)
  blockValue : ∀ scope, Keeps all (blockValue scope fuel)
  flowItems : ∀ scope first, Keeps all (flowItems scope first fuel)
  flowEntries : ∀ scope first, Keeps all (flowEntries scope first fuel)

section

variable {fuel : Nat} (within : KeepsWithin all fuel) (scope : Scope)

include within

theorem keeps_node (block listAtKey : Bool) :
    Keeps all (node scope block listAtKey (fuel + 1)) := by
  unfold node
  refine .andThen keeps_peek fun next_ => ?_
  split
  · exact .andThen keeps_skip fun _ => keeps_aliased _
  · split
    · exact Yields.throw isFormal_endless.isFoundAmong
    · refine (keeps_properties _).andThen fun properties => ?_
      refine .andThen (.discard keeps_peek) fun _ => (keeps_requireFresh _).andThen fun _ => ?_
      refine .andThen keeps_reserve fun number => (keeps_remember _ _).andThen fun _ => ?_
      refine (within.content _ _ _ _).andThen fun found => ?_
      exact (keeps_complete _ _).andThen fun _ => keeps_pure _

theorem keeps_content (block listAtKey : Bool) (properties : Properties) :
    Keeps all (content scope block listAtKey properties (fuel + 1)) := by
  unfold content
  refine .andThen keeps_peek fun next_ => ?_
  split
  · exact (within.listAtKeyItems scope).andThen fun _ => keeps_pure _
  · exact .andThen keeps_skip fun _ => keeps_pure _
  · exact .andThen keeps_skip fun _ => (within.flowItems scope true).andThen fun _ => keeps_pure _
  · exact .andThen keeps_skip fun _ =>
      (within.flowEntries scope true).andThen fun _ => keeps_pure _
  · exact .andThen keeps_skip fun _ => (within.blockItems scope).andThen fun _ => keeps_pure _
  · exact .andThen keeps_skip fun _ => (within.blockEntries scope).andThen fun _ => keeps_pure _
  · split
    · exact keeps_fail _
    · exact keeps_pure _

theorem keeps_blockItems : Keeps all (blockItems scope (fuel + 1)) := by
  unfold blockItems
  refine (keeps_skipIf _).andThen fun found => ?_
  split
  · refine (keeps_emptyBefore _ (within.node _ _ _)).andThen fun item => ?_
    exact (within.blockItems scope).andThen fun _ => keeps_pure _
  · exact (keeps_expect _ _).andThen fun _ => keeps_pure _

theorem keeps_listAtKeyItems : Keeps all (listAtKeyItems scope (fuel + 1)) := by
  unfold listAtKeyItems
  refine (keeps_skipIf _).andThen fun found => ?_
  split
  · refine (keeps_emptyBefore _ (within.node _ _ _)).andThen fun item => ?_
    exact (within.listAtKeyItems scope).andThen fun _ => keeps_pure _
  · exact keeps_pure _

theorem keeps_blockEntries : Keeps all (blockEntries scope (fuel + 1)) := by
  unfold blockEntries
  refine (keeps_skipIf _).andThen fun found => ?_
  split
  · refine (keeps_emptyBefore _ (within.node _ _ _)).andThen fun key => ?_
    refine (within.blockValue scope).andThen fun value => ?_
    exact (within.blockEntries scope).andThen fun _ => keeps_pure _
  · refine (keeps_skipIf _).andThen fun closed => ?_
    split
    · exact keeps_pure _
    · exact keeps_fail _

theorem keeps_blockValue : Keeps all (blockValue scope (fuel + 1)) := by
  unfold blockValue
  refine (keeps_skipIf _).andThen fun found => ?_
  split
  · exact keeps_emptyBefore _ (within.node _ _ _)
  · exact keeps_empty

theorem keeps_flowItems (first : Bool) : Keeps all (flowItems scope first (fuel + 1)) := by
  have pair (key value : Nat) : Keeps all (do
      let pair ← add ⟨.map, .map [(key, value)]⟩
      return pair :: (← flowItems scope false fuel)) :=
    (keeps_add _).andThen fun _ => (within.flowItems scope false).andThen fun _ => keeps_pure _
  unfold flowItems
  refine (keeps_skipIf _).andThen fun closed => ?_
  split
  · exact keeps_pure _
  · refine keeps_conditional (keeps_expect _ _) fun _ => ?_
    refine (keeps_skipIf _).andThen fun keyed => ?_
    split
    · refine (keeps_emptyBefore _ (within.node _ _ _)).andThen fun key => ?_
      refine (keeps_skipIf _).andThen fun valued => ?_
      dsimp only
      split
      · exact (keeps_emptyBefore _ (within.node _ _ _)).andThen fun value => pair key value
      · exact .andThen keeps_empty fun value => pair key value
    · refine (keeps_skipIf _).andThen fun closed => ?_
      split
      · exact keeps_pure _
      · exact (within.node _ _ _).andThen fun item =>
          (within.flowItems scope false).andThen fun _ => keeps_pure _

theorem keeps_flowEntries (first : Bool) : Keeps all (flowEntries scope first (fuel + 1)) := by
  have entry (key value : Nat) : Keeps all (do
      return (key, value) :: (← flowEntries scope false fuel)) :=
    (within.flowEntries scope false).andThen fun _ => keeps_pure _
  unfold flowEntries
  refine (keeps_skipIf _).andThen fun closed => ?_
  split
  · exact keeps_pure _
  · refine keeps_conditional (keeps_expect _ _) fun _ => ?_
    refine (keeps_skipIf _).andThen fun keyed => ?_
    split
    · refine (keeps_emptyBefore _ (within.node _ _ _)).andThen fun key => ?_
      refine (keeps_skipIf _).andThen fun valued => ?_
      dsimp only
      split
      · exact (keeps_emptyBefore _ (within.node _ _ _)).andThen fun value => entry key value
      · exact .andThen keeps_empty fun value => entry key value
    · refine (keeps_skipIf _).andThen fun closed => ?_
      split
      · exact keeps_pure _
      · exact (within.node _ _ _).andThen fun key =>
          .andThen keeps_empty fun value => entry key value

end

theorem keepsWithin (fuel : Nat) : KeepsWithin all fuel := by
  induction fuel with
  | zero =>
    exact ⟨fun _ _ _ => keeps_fail _, fun _ _ _ _ => keeps_fail _, fun _ => keeps_fail _,
      fun _ => keeps_fail _, fun _ => keeps_fail _, fun _ => keeps_fail _, fun _ _ => keeps_fail _,
      fun _ _ => keeps_fail _⟩
  | succ fuel within =>
    exact ⟨keeps_node within, keeps_content within, keeps_blockItems within,
      keeps_listAtKeyItems within, keeps_blockEntries within, keeps_blockValue within,
      keeps_flowItems within, keeps_flowEntries within⟩

theorem keeps_directives (declared : Handles) (versionSeen : Bool) (fuel : Nat) :
    Keeps all (directives declared versionSeen fuel) := by
  induction fuel generalizing declared versionSeen with
  | zero => exact keeps_pure _
  | succ fuel inductionHypothesis =>
    unfold directives
    refine .andThen keeps_peek fun next_ => ?_
    split
    · refine .andThen keeps_skip fun _ => keeps_conditional (keeps_fail _) fun _ => ?_
      exact keeps_conditional (keeps_fail _) fun _ => inductionHypothesis _ _
    · refine .andThen keeps_skip fun _ => ?_
      exact keeps_conditional (keeps_fail _) fun _ => inductionHypothesis _ _
    · exact .andThen keeps_skip fun _ => inductionHypothesis _ _
    · exact keeps_pure _

theorem keeps_markedDocument (fuel : Nat) : Keeps all (markedDocument fuel) := by
  have filled (ended : Bool) (scope : Scope) :
      Keeps all (if ended then empty else node scope true false fuel) := by
    cases ended with
    | true => exact keeps_empty
    | false => exact (keepsWithin fuel).node scope true false
  unfold markedDocument
  refine (keeps_directives _ _ fuel).andThen fun handles => ?_
  refine (keeps_expect _ _).andThen fun _ => ?_
  refine .andThen keeps_peek fun next_ => ?_
  split
  · exact keeps_empty
  · exact filled _ _

theorem keeps_skipDocumentEnds (fuel : Nat) : Keeps all (skipDocumentEnds fuel) := by
  induction fuel with
  | zero => exact keeps_pure _
  | succ fuel inductionHypothesis =>
    unfold skipDocumentEnds
    refine (keeps_skipIf _).andThen fun found => ?_
    split
    · exact inductionHypothesis
    · exact keeps_pure _

theorem keeps_document (fuel : Nat) : Keeps all (document fuel) := by
  have rest (found : Nat) : Keeps all (do
      skipDocumentEnds fuel
      if (← peek).isSome then fail .severalDocuments
      return some found) :=
    (keeps_skipDocumentEnds fuel).andThen fun _ => .andThen keeps_peek fun _ =>
      keeps_conditional (keeps_fail _) fun _ => keeps_pure _
  unfold document
  refine .andThen keeps_peek fun next_ => ?_
  split
  · exact keeps_pure _
  · dsimp only
    split
    · exact (keeps_markedDocument fuel).andThen rest
    · exact (keeps_markedDocument fuel).andThen rest
    · exact ((keepsWithin fuel).node _ _ _).andThen rest

theorem keeps_graph (fuel : Nat) : Keeps all (graph fuel) := by
  unfold graph
  refine (keeps_document fuel).andThen fun found => ?_
  split
  · exact keeps_pure _
  · exact Yields.get.bind fun _ _ => keeps_pure _

end Composing

/-- A fault that keeps pieces from making a graph is that of a piece. -/
theorem ends_ofTokens (tokens : List Token) :
    Ends (fun _ => True) (Error.IsFoundAmong tokens) (Graph.ofTokens tokens) := by
  have composed := Composing.keeps_graph (3 * tokens.length + 3)
    ⟨tokens, [], #[], false⟩ (List.suffix_refl tokens)
  exact (Ends.map_iff Prod.fst _).2 (composed.mono (fun _ _ => trivial) fun _ allowed => allowed)

end Yaml

end ClientModel
