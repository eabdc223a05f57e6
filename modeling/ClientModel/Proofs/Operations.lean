/-
This file says which operations a document has: those under the verbs of the items of its paths.
An operation is read after all those in front of it, and the first thing done with its parameters
is to compare them with those of its path. The main statements say what that comparison gives, and
from which maps the operations of a document were read.
-/

import ClientModel.Proofs.Outcome

namespace ClientModel

/-- Steps that check their item and then succeed fail with what the first failing check finds. -/
theorem mapM_eq_of_check {Item Product Flaw Fault : Type} {step : Item → Except Fault Product}
    {check : Item → Option Flaw} {raise : Flaw → Fault} {make : Item → Product}
    (each : ∀ item, step item = ((check item).map raise).elim (.ok (make item)) .error)
    (items : List Item) :
    items.mapM step =
      ((items.findSome? check).map raise).elim (.ok (items.map make)) .error := by
  induction items with
  | nil => rfl
  | cons item rest inductionHypothesis =>
    rw [List.mapM_cons, each, inductionHypothesis, List.findSome?_cons]
    cases check item with
    | some flaw => rfl
    | none => cases rest.findSome? check <;> rfl

namespace Extraction

/-! ### Merging parameters -/

/-- What tells parameters apart, if it can be compared. -/
def rawKey (parameter : Entries) : Value × Value :=
  ((parameter.get? "name").getD (.string ""), (parameter.get? "in").getD (.string ""))

/-- The kind of the first part of a parameter's key that cannot be compared. -/
def incomparableKey? (parameter : Entries) : Option String :=
  (incomparable? (rawKey parameter).1).or (incomparable? (rawKey parameter).2)

/-- A parameter of a path is overridden: one of the operation has the same key. -/
def isOverridden (ofOperation : List Entries) (parameter : Entries) : Bool :=
  ofOperation.any fun own => sameParameterKey (rawKey parameter) (rawKey own)

/-- The parameters of an operation whose keys can all be compared. -/
def merged (ofPath ofOperation : List Entries) : List Entries :=
  ofPath.filter (!isOverridden ofOperation ·) ++ ofOperation

theorem parameterKey_eq (parameter : Entries) :
    parameterKey parameter = ((incomparableKey? parameter).map .incomparable).elim
      (.ok (rawKey parameter)) .error := by
  unfold parameterKey incomparableKey? rawKey
  dsimp only
  cases incomparable? ((parameter.get? "name").getD (.string "")) with
  | some kind => rfl
  | none => cases incomparable? ((parameter.get? "in").getD (.string "")) <;> rfl

/-- Parameters are merged unless the key of one cannot be compared. The operation's own are looked
at first. -/
theorem mergedParameters_eq (ofPath ofOperation : List Entries) :
    mergedParameters ofPath ofOperation =
      (((ofOperation ++ ofPath).findSome? incomparableKey?).map .incomparable).elim
        (.ok (merged ofPath ofOperation)) .error := by
  have keyed (parameter : Entries) :
      (do
        let key ← parameterKey parameter
        pure (key, parameter) : Except ExtractionError ((Value × Value) × Entries)) =
      ((incomparableKey? parameter).map .incomparable).elim
        (.ok (rawKey parameter, parameter)) .error := by
    rw [parameterKey_eq]
    cases incomparableKey? parameter <;> rfl
  unfold mergedParameters
  rw [mapM_eq_of_check parameterKey_eq, mapM_eq_of_check keyed, List.findSome?_append]
  cases ofOperation.findSome? incomparableKey? with
  | some kind => rfl
  | none =>
    cases ofPath.findSome? incomparableKey? with
    | some kind => rfl
    | none =>
      have kept : ((ofPath.map fun parameter => (rawKey parameter, parameter)).filter fun entry =>
          !(ofOperation.map rawKey).any (sameParameterKey entry.1)).map Prod.snd =
          ofPath.filter (!isOverridden ofOperation ·) := by
        simp only [List.filter_map, List.map_map, Function.comp_def, List.map_id', List.any_map,
          isOverridden]
      exact congrArg (fun front => Except.ok (front ++ ofOperation)) kept

theorem mergedParameters_eq_ok_iff (ofPath ofOperation whole : List Entries) :
    mergedParameters ofPath ofOperation = .ok whole ↔
      (ofOperation ++ ofPath).findSome? incomparableKey? = none ∧
        merged ofPath ofOperation = whole := by
  rw [mergedParameters_eq]
  cases (ofOperation ++ ofPath).findSome? incomparableKey? <;> simp

theorem mergedParameters_eq_error_iff (ofPath ofOperation : List Entries)
    (fault : ExtractionError) :
    mergedParameters ofPath ofOperation = .error fault ↔
      ∃ kind, fault = .incomparable kind ∧
        (ofOperation ++ ofPath).findSome? incomparableKey? = some kind := by
  rw [mergedParameters_eq]
  cases (ofOperation ++ ofPath).findSome? incomparableKey? <;> simp [eq_comm]

/-! ### Where operations stand -/

/-- What the item of a path says, after following references: its own map, and the parameters
that all its operations share. -/
structure IsPathItem (root : Value) (entry : Scalar × Value) (fields : Entries)
    (ofPath : List Entries) : Prop where
  item : ∃ item, dereferenced root entry.2 = .ok item ∧ item.entries? = some fields
  parameters : dereferencedMaps root (fields.get "parameters") = .ok ofPath

/-- The operations that the item of a path declares, verb by verb. -/
def declaredOperations (fields : Entries) : List (Verb × Entries) :=
  Verb.all.filterMap fun verb => (fields.get verb.name).entries?.map (verb, ·)

/-- The types of content that a decoded document declares for all its operations. -/
def mediaDefaults (entries : Entries) : MediaDefaults :=
  ⟨textsOf (entries.get "consumes"), textsOf (entries.get "produces")⟩

/-- An operation is read from the maps of its path and of its verb. -/
structure IsReadFrom (entries : Entries) (swagger : Bool) (ofPath : List Entries)
    (fields : Entries) (read : Operation) : Prop where
  declared : ∃ items entry pathFields, (entries.get "paths").entries? = some items ∧
    entry ∈ items ∧ IsPathItem (.map entries) entry pathFields ofPath ∧
    (read.verb, fields) ∈ declaredOperations pathFields ∧ read.path = entry.1.text
  made : operation (.map entries) swagger (mediaDefaults entries) read.path ofPath read.verb
    fields = .ok read

section

variable (root : Value) (swagger : Bool) (defaults : MediaDefaults)

/-- An operation has the path and the verb under which it is declared. -/
theorem path_verb_of_operation {path : String} {ofPath : List Entries} {verb : Verb}
    {fields : Entries} {read : Operation}
    (made : operation root swagger defaults path ofPath verb fields = .ok read) :
    read.path = path ∧ read.verb = verb := by
  simp only [operation, bind_eq_ok_iff, pure, Except.pure, Except.ok.injEq] at made
  obtain ⟨_, _, _, _, rfl⟩ := made
  exact ⟨rfl, rfl⟩

/-- The operations of a path are read where its item is a map, one after another. -/
theorem operationsOfPath_of_isPathItem {entry : Scalar × Value} {fields : Entries}
    {ofPath : List Entries} (item : IsPathItem root entry fields ofPath) :
    operationsOfPath root swagger defaults entry = (declaredOperations fields).mapM fun found =>
      operation root swagger defaults entry.1.text ofPath found.1 found.2 := by
  obtain ⟨⟨item, followed, here⟩, shared⟩ := item
  unfold operationsOfPath
  rw [followed]
  simp only [bind, Except.bind, here, shared]
  rfl

theorem exists_isPathItem {entry : Scalar × Value} {found : List Operation}
    (made : operationsOfPath root swagger defaults entry = .ok found) {read : Operation}
    (member : read ∈ found) : ∃ fields ofPath, IsPathItem root entry fields ofPath := by
  simp only [operationsOfPath, bind_eq_ok_iff] at made
  obtain ⟨item, followed, made⟩ := made
  split at made
  · next fields here =>
    obtain ⟨ofPath, shared, _⟩ := (bind_eq_ok_iff _ _ _).1 made
    exact ⟨fields, ofPath, ⟨item, followed, here⟩, shared⟩
  · cases made
    exact absurd member List.not_mem_nil

theorem mem_operationsOfPath_iff {entry : Scalar × Value} {found : List Operation}
    (made : operationsOfPath root swagger defaults entry = .ok found) (read : Operation) :
    read ∈ found ↔ ∃ pathFields ofPath fields, IsPathItem root entry pathFields ofPath ∧
      (read.verb, fields) ∈ declaredOperations pathFields ∧ read.path = entry.1.text ∧
      operation root swagger defaults read.path ofPath read.verb fields = .ok read := by
  constructor
  · intro member
    obtain ⟨pathFields, ofPath, item⟩ := exists_isPathItem root swagger defaults made member
    rw [operationsOfPath_of_isPathItem root swagger defaults item] at made
    obtain ⟨⟨verb, fields⟩, declared, one⟩ := (mem_iff_of_mapM made read).1 member
    obtain ⟨samePath, rfl⟩ := path_verb_of_operation root swagger defaults one
    exact ⟨pathFields, ofPath, fields, item, declared, samePath, samePath ▸ one⟩
  · rintro ⟨pathFields, ofPath, fields, item, declared, samePath, one⟩
    rw [operationsOfPath_of_isPathItem root swagger defaults item] at made
    exact (mem_iff_of_mapM made read).2 ⟨(read.verb, fields), declared, samePath ▸ one⟩

end

theorem operations_of_document {entries : Entries} {version : String} {understood : Document}
    (reading : document entries version = .ok understood) :
    operations entries (isSwagger version) = .ok understood.operations := by
  simp only [document] at reading
  split at reading
  all_goals
    simp only [bind_eq_ok_iff, pure, Except.pure, Except.ok.injEq] at reading
    obtain ⟨_, _, _, _, operations, made, rfl⟩ := reading
    exact made

theorem eq_null_of_isNull {value : Value} (null : value.isNull = true) : value = .null := by
  unfold Value.isNull at null
  split at null
  · rfl
  · cases null

theorem entries?_of_isNull {value : Value} (null : value.isNull = true) :
    value.entries? = none := by
  rw [eq_null_of_isNull null]
  rfl

/-- The operations of a document are those that are read from the maps of a path and a verb. -/
theorem mem_operations_iff {entries : Entries} {version : String} {understood : Document}
    (reading : document entries version = .ok understood) (read : Operation) :
    read ∈ understood.operations ↔
      ∃ ofPath fields, IsReadFrom entries (isSwagger version) ofPath fields read := by
  have made := operations_of_document reading
  generalize understood.operations = found at made
  simp only [operations] at made
  split at made
  · next absent =>
    cases made
    refine iff_of_false List.not_mem_nil ?_
    rintro ⟨_, _, ⟨items, _, _, present, _⟩, _⟩
    cases (entries?_of_isNull absent).symm.trans present
  · split at made
    · next items present =>
      obtain ⟨parts, each, same⟩ := (bind_eq_ok_iff _ _ _).1 made
      obtain rfl := Except.ok.inj same
      rw [List.mem_flatten]
      constructor
      · rintro ⟨part, among, member⟩
        obtain ⟨entry, here, whole⟩ := (mem_iff_of_mapM each part).1 among
        obtain ⟨pathFields, ofPath, fields, item, declared, samePath, one⟩ :=
          (mem_operationsOfPath_iff _ _ _ whole read).1 member
        exact ⟨ofPath, fields,
          ⟨items, entry, pathFields, present, here, item, declared, samePath⟩, one⟩
      · rintro ⟨ofPath, fields, ⟨others, entry, pathFields, found, here, item, declared, samePath⟩,
          one⟩
        obtain rfl := Option.some.inj (present.symm.trans found)
        obtain ⟨part, among, whole⟩ :=
          Placement.exists_mem_of_forall₂ ((mapM_eq_ok_iff _ _ _).1 each) here
        exact ⟨part, among, (mem_operationsOfPath_iff _ _ _ whole read).2
          ⟨pathFields, ofPath, fields, item, declared, samePath, one⟩⟩
    · cases made

end Extraction

end ClientModel
