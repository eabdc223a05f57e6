/-
This file says where it shows that a scalar of a YAML text is not what its tag says. Merging maps
changes no text and no tag, but for that of a key. The main statement is that every such fault is
that of a piece, or of a tag and a text of the graph that the pieces make.
-/

import ClientModel.Proofs.YamlComposing
import ClientModel.Yaml.Meaning

namespace ClientModel.Yaml

/-! ### Nodes with the same texts -/

/-- A node made from another: it has no other text, and no other tag unless that of texts. -/
structure Node.StemsFrom (node source : Node) : Prop where
  tag : node.tag = source.tag ∨ node.tag = .text
  text : ∀ text, node.body = .scalar text → source.body = .scalar text

/-- Nodes each of which stems from the one of the same number. -/
def Stem (source nodes : Array Node) : Prop :=
  ∀ number, (nodeAt nodes number).StemsFrom (nodeAt source number)

theorem Stem.refl (nodes : Array Node) : Stem nodes nodes :=
  fun _ => ⟨Or.inl rfl, fun _ same => same⟩

theorem Node.StemsFrom.trans {first second third : Node} (left : second.StemsFrom first)
    (right : third.StemsFrom second) : third.StemsFrom first where
  tag := by
    rcases right.tag with same | text
    · rw [same]
      exact left.tag
    · exact Or.inr text
  text text same := left.text text (right.text text same)

theorem Stem.trans {first second third : Array Node} (left : Stem first second)
    (right : Stem second third) : Stem first third :=
  fun number => (left number).trans (right number)

theorem stem_modify (nodes : Array Node) (number : Nat) {change : Node → Node}
    (each : ∀ node, (change node).StemsFrom node) : Stem nodes (nodes.modify number change) := by
  intro other
  unfold nodeAt
  rw [Array.getD_eq_getD_getElem?, Array.getD_eq_getD_getElem?, Array.getElem?_modify]
  split
  · cases nodes[other]? with
    | none => exact ⟨Or.inl rfl, fun _ same => same⟩
    | some node => exact each node
  · exact ⟨Or.inl rfl, fun _ same => same⟩

theorem stem_withEntries (number : Nat) (entries : List NodeEntry) (nodes : Array Node) :
    Stem nodes (withEntries number entries nodes) :=
  stem_modify nodes number fun _ => ⟨Or.inl rfl, fun _ same => NodeBody.noConfusion same⟩

theorem stem_withTextKeys (entries : List NodeEntry) (nodes : Array Node) :
    Stem nodes (withTextKeys entries nodes) := by
  unfold withTextKeys
  induction entries generalizing nodes with
  | nil => exact .refl nodes
  | cons entry rest inductionHypothesis =>
    rw [List.foldl_cons]
    refine Stem.trans ?_ (inductionHypothesis _)
    split
    · exact stem_modify nodes entry.1 fun _ => ⟨Or.inr rfl, fun _ same => same⟩
    · exact .refl nodes

/-! ### Merging -/

mutual

theorem ends_mergeInto (source : Array Node) (number : Nat) (steps : Nat) {merging : Merging}
    (stem : Stem source merging.nodes) :
    Ends (fun found => Stem source found.nodes) Error.IsFormal
      (mergeInto number steps merging) := by
  cases steps with
  | zero => exact isFormal_endless
  | succ steps =>
    unfold mergeInto
    dsimp only
    split
    · split
      · exact stem.trans (stem_withTextKeys _ _)
      · exact (stem.trans (stem_withTextKeys _ _)).trans (stem_withEntries _ _ _)
    · refine (ends_mergeFrom source _ steps ?_).bind fun found right => ?_
      · exact (stem.trans (stem_withTextKeys _ _)).trans (stem_withEntries _ _ _)
      · exact ends_mergeInto source number steps right

theorem ends_mergeFrom (source : Array Node) (from_ : Nat) (steps : Nat) {nodes : Array Node}
    (stem : Stem source nodes) :
    Ends (fun found => Stem source found.nodes) Error.IsFormal (mergeFrom from_ steps nodes) := by
  cases steps with
  | zero => exact isFormal_endless
  | succ steps =>
    unfold mergeFrom
    split
    · exact ends_mergedEntries source from_ steps stem
    · exact (ends_mergeAll source _ steps stem).bind fun found right => right
    · exact isFormal_malformed _

theorem ends_mergeAll (source : Array Node) (items : List Nat) (steps : Nat) {nodes : Array Node}
    (stem : Stem source nodes) :
    Ends (fun found => Stem source found.1) Error.IsFormal (mergeAll items steps nodes) := by
  cases steps with
  | zero =>
    unfold mergeAll
    exact isFormal_endless
  | succ steps =>
    cases items with
    | nil => exact stem
    | cons item rest =>
      unfold mergeAll
      split
      · refine (ends_mergedEntries source item steps stem).bind fun merged right => ?_
        exact (ends_mergeAll source rest steps right).bind fun found others => others
      · exact isFormal_malformed _

theorem ends_mergedEntries (source : Array Node) (number : Nat) (steps : Nat)
    {nodes : Array Node} (stem : Stem source nodes) :
    Ends (fun found => Stem source found.nodes) Error.IsFormal
      (mergedEntries number steps nodes) := by
  cases steps with
  | zero => exact isFormal_endless
  | succ steps => exact (ends_mergeInto source number steps stem).bind fun merged right => right

end

/-- Merging changes no text and no tag, but for that of a key. -/
theorem ends_merge {source nodes : Array Node} (number : Nat) (stem : Stem source nodes) :
    Ends (Stem source) Error.IsFormal (merge number nodes) := by
  unfold merge
  dsimp only
  split
  · exact stem.trans (stem_withTextKeys _ _)
  · rw [Ends.map_iff]
    exact ends_mergeInto source number _ stem

/-! ### Understanding -/

/-- A fault of a tag with a text among nodes. The text of a time has to be its own. -/
inductive FaultAmong (nodes : Array Node) : ScalarFault → Prop
  | scalar {fault : ScalarFault} (number other : Nat) {text : String}
    (written : (nodeAt nodes other).body = .scalar text)
    (unfit : scalarOf (nodeAt nodes number).tag text = .error (.unfit fault)) :
    FaultAmong nodes fault
  | timeOfMap (number : Nat) (time : (nodeAt nodes number).tag = .time) :
    FaultAmong nodes .timeOfMap

/-- An error that, if it is about the content of a scalar, is a fault among nodes. -/
def Error.IsFoundIn (nodes : Array Node) (error : Error) : Prop :=
  ∀ fault, error = .unfit fault → FaultAmong nodes fault

theorem Error.IsFormal.isFoundIn {nodes : Array Node} {error : Error} (formal : error.IsFormal) :
    error.IsFoundIn nodes :=
  fun fault same => absurd same (formal fault)

theorem ends_of_isFormal {Product : Type} {good : Product → Prop} (nodes : Array Node)
    {outcome : Except Error Product} (ends : Ends good Error.IsFormal outcome) :
    Ends good (Error.IsFoundIn nodes) outcome :=
  ends.mono (fun _ right => right) fun _ formal => formal.isFoundIn

namespace Understanding

/-- The text of a node is written somewhere. -/
theorem ends_textOf (nodes : Array Node) (steps number : Nat) :
    Ends (fun text => ∃ other, (nodeAt nodes other).body = .scalar text) Error.IsFormal
      (textOf nodes steps number) := by
  induction steps generalizing number with
  | zero => exact isFormal_endless
  | succ steps inductionHypothesis =>
    unfold textOf
    split
    · next written => exact ⟨number, written⟩
    · exact isFormal_malformed _
    · split
      · exact inductionHypothesis _
      · exact isFormal_malformed _

theorem ends_scalarAt {source nodes : Array Node} (stem : Stem source nodes) (number : Nat) :
    Ends (fun _ => True) (Error.IsFoundIn source) (scalarAt nodes number) := by
  unfold scalarAt
  refine (ends_of_isFormal source (ends_textOf nodes _ number)).bind
    fun text ⟨other, written⟩ => ?_
  have tagged := (stem number).tag
  split
  · next time _ =>
    rintro fault same
    cases same
    rw [time] at tagged
    exact .timeOfMap number (tagged.resolve_right Tag.noConfusion).symm
  · cases read : scalarOf (nodeAt nodes number).tag text with
    | ok content => trivial
    | error error =>
      rintro fault rfl
      rcases tagged with same | text
      · rw [same] at read
        exact .scalar number other ((stem other).text _ written) read
      · rw [text] at read
        cases read

variable {source : Array Node} {Product : Type}

/-- A computation that keeps to nodes that stem from a source, and to faults that are found
there. -/
def Keeps (source : Array Node) (computation : Understanding Product) : Prop :=
  Yields (fun making => Stem source making.nodes) (Error.IsFoundIn source) (fun _ => True)
    computation

theorem keeps_fail (complaint : Complaint) :
    Keeps source (fail complaint : Understanding Product) :=
  Yields.throw (isFormal_malformed complaint).isFoundIn

theorem keeps_node (number : Nat) : Keeps source (node number) :=
  Yields.get.bind fun _ _ => Yields.pure trivial

theorem keeps_remember (number : Nat) (found : Made) : Keeps source (remember number found) :=
  Yields.changed fun _ stem => stem

theorem keeps_remembered (number : Nat) : Keeps source (remembered number) :=
  Yields.get.bind fun _ _ => Yields.pure trivial

theorem keeps_postpone (number : Nat) (empty : Made) : Keeps source (postpone number empty) :=
  (keeps_remember number empty).andThen fun _ => Yields.changed fun _ stem => stem

theorem keeps_meet (number : Nat) : Keeps source (meet number) := by
  unfold meet
  refine (keeps_remembered number).andThen fun found => ?_
  split
  · exact Yields.pure trivial
  · refine (keeps_node number).andThen fun node => ?_
    split
    · exact keeps_postpone _ _
    · exact keeps_postpone _ _
    · exact keeps_postpone _ _
    · exact keeps_postpone _ _
    · exact keeps_postpone _ _
    · exact keeps_fail _
    · exact keeps_fail _
    · exact keeps_fail _
    · refine Yields.get.bind fun making stem => ?_
      exact (Yields.lift (ends_scalarAt stem number)).andThen fun _ => keeps_remember _ _

theorem keeps_meetKey (number : Nat) : Keeps source (meetKey number) := by
  unfold meetKey
  refine (keeps_meet number).andThen fun _ => (keeps_remembered number).andThen fun found => ?_
  split
  · exact Yields.pure trivial
  · exact keeps_fail _

theorem keeps_mapEntries (number : Nat) : Keeps source (mapEntries number) := by
  unfold mapEntries
  refine (keeps_node number).andThen fun node => ?_
  split
  · refine Yields.get.bind fun making stem => ?_
    have merged := ends_of_isFormal source (ends_merge number stem)
    refine (Yields.lift merged).bind fun nodes right => ?_
    have stored : Keeps source (modify fun making => { making with nodes := nodes }) :=
      Yields.changed fun _ _ => right
    refine stored.andThen fun _ => Yields.foldlM (fun _ entry => ?_) []
    exact (keeps_meetKey _).andThen fun _ => (keeps_meet _).andThen fun _ => Yields.pure trivial
  · exact keeps_fail _

theorem keeps_onlyEntry (number : Nat) : Keeps source (onlyEntry number) := by
  unfold onlyEntry
  refine (keeps_node number).andThen fun node => ?_
  split
  · exact (keeps_meet _).andThen fun _ => (keeps_meet _).andThen fun _ => Yields.pure trivial
  · exact keeps_fail _

theorem keeps_listItems (number : Nat) : Keeps source (listItems number) := by
  unfold listItems
  refine (keeps_node number).andThen fun node => ?_
  split
  · exact Yields.pure trivial
  · exact keeps_fail _

theorem keeps_fill (number : Nat) : Keeps source (fill number) := by
  unfold fill
  refine (keeps_node number).andThen fun node => ?_
  have pairs : Keeps source (do
      let items ← listItems number
      remember number (.pairs (← items.mapM onlyEntry))) :=
    (keeps_listItems number).andThen fun _ =>
      (Yields.mapM keeps_onlyEntry).andThen fun _ => keeps_remember _ _
  split
  · exact (keeps_listItems number).andThen fun _ =>
      (Yields.forM keeps_meet).andThen fun _ => keeps_remember _ _
  · exact (keeps_mapEntries number).andThen fun _ => keeps_remember _ _
  · exact (keeps_mapEntries number).andThen fun _ => keeps_remember _ _
  · exact pairs
  · exact pairs
  · exact Yields.pure trivial

theorem keeps_fillAll (rounds : Nat) : Keeps source (fillAll rounds) := by
  induction rounds with
  | zero => exact Yields.pure trivial
  | succ rounds inductionHypothesis =>
    unfold fillAll
    refine Yields.get.bind fun making _ => ?_
    dsimp only
    split
    · exact Yields.pure trivial
    · have emptied : Keeps source (modify fun making => { making with waiting := [] }) :=
        Yields.changed fun _ stem => stem
      exact emptied.andThen fun _ =>
        (Yields.forM keeps_fill).andThen fun _ => inductionHypothesis

/-- Understanding a graph keeps to its texts and tags. -/
theorem keeps_understand (number : Nat) : Keeps source (understand number) :=
  (keeps_meet number).andThen fun _ => Yields.get.bind fun _ _ => keeps_fillAll _

end Understanding

/-- A fault that keeps a graph from having a value is found in the graph. -/
theorem ends_value? (graph : Graph) :
    Ends (fun _ => True) (Error.IsFoundIn graph.nodes) graph.value? :=
  (Understanding.keeps_understand graph.root _ (Stem.refl graph.nodes)).bind fun _ _ => trivial

/-! ### Texts -/

/-- Where a fault of a text shows: at a piece that cannot be read, or at a tag and a text of the
graph that the pieces make. -/
inductive ShowsFault (text : String) (fault : ScalarFault) : Prop
  | piece (unreadable : .unreadable (.unfit fault) ∈ tokens text.toList)
  | node (graph : Graph) (composed : Graph.ofTokens (tokens text.toList) = .ok (some graph))
    (found : FaultAmong graph.nodes fault)

/-- A fault that keeps a text from having a value shows somewhere in it. -/
theorem showsFault_of_read {text : String} {fault : ScalarFault}
    (unfit : read text = .error (.unfit fault)) : ShowsFault text fault := by
  rcases (bind_eq_error_iff _ _ _).1 unfit with unread | ⟨composed, made, further⟩
  · exact .piece ((ends_ofTokens _).of_error unread fault rfl)
  · cases composed with
    | none => cases further
    | some graph => exact .node graph made ((ends_value? graph).of_error further fault rfl)

end ClientModel.Yaml
