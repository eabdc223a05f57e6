/-
This file moves the references of a schema from where the older generation of documents keeps its
named schemas to where the newer one does. References are moved at the places where schemas are
read and nowhere else: what a schema holds freely stays as it is. The main statement is that the
type of a schema over JSON values does not depend on where its references lead to a name.
-/

import ClientModel.Proofs.JsonDocument
import ClientModel.Proofs.Pointers

namespace ClientModel

/-! ### Changing what stands under keywords -/

/-- Entries with a change to the item under each keyword. -/
def Entries.changed (change : String → Value → Value) (entries : Entries) : Entries :=
  entries.map fun entry => (entry.1,
    match entry.1 with
    | .string keyword => change keyword entry.2
    | _ => entry.2)

theorem Entries.get?_changed (change : String → Value → Value) (keyword : String)
    (entries : Entries) :
    (entries.changed change).get? keyword = (entries.get? keyword).map (change keyword) := by
  induction entries with
  | nil => rfl
  | cons entry rest inductionHypothesis =>
    obtain ⟨key, item⟩ := entry
    cases key with
    | string text =>
      rw [changed] at inductionHypothesis ⊢
      rw [List.map_cons, get?, get?, inductionHypothesis]
      split
      · next same => rw [eq_of_beq same]; rfl
      · rfl
    | null | bool _ | int _ | float _ | date _ | timestamp _ | binary _ =>
      exact inductionHypothesis

/-- A change that leaves null alone changes what is read under a keyword. -/
theorem Entries.get_changed {change : String → Value → Value} {keyword : String}
    (absent : change keyword .null = .null) (entries : Entries) :
    (entries.changed change).get keyword = change keyword (entries.get keyword) := by
  rw [get, get, get?_changed]
  cases entries.get? keyword with
  | none => exact absent.symm
  | some item => rfl

theorem Entries.areAllJson_changed {change : String → Value → Value} {entries : Entries}
    (json : Value.areAllJson entries = true)
    (keeps : ∀ keyword, ∀ entry ∈ entries, (change keyword entry.2).isJson = true) :
    Value.areAllJson (entries.changed change) = true := by
  refine (Value.areAllJson_iff _).2 fun entry member => ?_
  obtain ⟨source, among, rfl⟩ := List.mem_map.1 member
  have here := (Value.areAllJson_iff entries).1 json source among
  refine ⟨here.1, ?_⟩
  dsimp only
  split
  · exact keeps _ source among
  · exact here.2

/-- A change to entries is not made twice if it is made twice to no item. -/
theorem Entries.changed_changed {change : String → Value → Value} {entries : Entries}
    (again : ∀ keyword, ∀ entry ∈ entries,
      change keyword (change keyword entry.2) = change keyword entry.2) :
    (entries.changed change).changed change = entries.changed change := by
  rw [changed, changed, List.map_map]
  refine List.map_congr_left fun entry member => ?_
  obtain ⟨key, item⟩ := entry
  cases key with
  | string keyword => exact congrArg (Prod.mk _) (again keyword _ member)
  | null | bool _ | int _ | float _ | date _ | timestamp _ | binary _ => rfl

/-! ### Moving references -/

namespace Relocation

/-- Where the older generation keeps its named schemas. -/
def olderPlace : String := "#/definitions/"

/-- Where the newer generation keeps its named schemas. -/
def newerPlace : String := "#/components/schemas/"

/-- A pointer to a named schema of the older generation, moved to the newer one; any other as it
is. -/
def movedPointer (pointer : String) : String :=
  if olderPlace.toList.isPrefixOf pointer.toList then
    String.ofList (newerPlace.toList ++ pointer.toList.drop olderPlace.toList.length)
  else pointer

/-- A pointer that stands as the text of a value, moved. -/
def movedReference : Value → Value
  | .string pointer => .string (movedPointer pointer)
  | other => other

/-- The pointers in the mapping of a discriminator, moved. -/
def movedMapping : Value → Value
  | .map entries => .map (entries.map fun entry => (entry.1, movedReference entry.2))
  | other => other

/-- A discriminator with the pointers of its mapping moved. -/
def movedDiscriminator : Value → Value
  | .map entries => .map (Entries.changed
      (fun keyword item => if keyword == "mapping" then movedMapping item else item) entries)
  | other => other

/-- The keywords under which a schema has parts that are schemas themselves. -/
def partKeywords : List String :=
  compositionKeywords ++ ["properties", "items", "additionalProperties"]

/-- What has no schemas in it, moved: a reference and a discriminator have pointers. -/
def movedWithoutParts (keyword : String) (item : Value) : Value :=
  if keyword == "$ref" then movedReference item
  else if keyword == "discriminator" then movedDiscriminator item
  else item

mutual

/-- What is read at a place, with its references moved. -/
def movedAt : SchemaPlace → Value → Value
  | .schema, .map entries => .map (movedKeywords entries)
  | .properties, .map entries => .map (movedProperties entries)
  | .members, .list items => .list (movedMembers items)
  | _, value => value

/-- The keywords of a schema with all references moved. -/
def movedKeywords : List (Scalar × Value) → List (Scalar × Value)
  | [] => []
  | (key, item) :: rest =>
    (key,
      match key with
      | .string keyword =>
        if partKeywords.contains keyword then movedAt (.ofKeyword keyword) item
        else movedWithoutParts keyword item
      | _ => item) :: movedKeywords rest

/-- The properties of an object with all references moved. -/
def movedProperties : List (Scalar × Value) → List (Scalar × Value)
  | [] => []
  | (key, item) :: rest => (key, movedAt .schema item) :: movedProperties rest

/-- The members of a composition with all references moved. -/
def movedMembers : List Value → List Value
  | [] => []
  | item :: rest => movedAt .schema item :: movedMembers rest

end

/-- A schema with all references moved. -/
def moved (raw : Value) : Value := movedAt .schema raw

/-- What stands under a keyword of a schema, with all references moved. -/
def movedUnder (keyword : String) (item : Value) : Value :=
  if partKeywords.contains keyword then movedAt (.ofKeyword keyword) item
  else movedWithoutParts keyword item

theorem movedKeywords_eq (entries : Entries) :
    movedKeywords entries = entries.changed movedUnder := by
  induction entries with
  | nil => rfl
  | cons entry rest inductionHypothesis =>
    rw [Entries.changed, List.map_cons]
    exact congrArg (_ :: ·) inductionHypothesis

theorem movedProperties_eq (entries : List (Scalar × Value)) :
    movedProperties entries = entries.map fun entry => (entry.1, moved entry.2) := by
  induction entries with
  | nil => rfl
  | cons entry rest inductionHypothesis => rw [movedProperties, inductionHypothesis]; rfl

theorem movedMembers_eq (items : List Value) : movedMembers items = items.map moved := by
  induction items with
  | nil => rfl
  | cons item rest inductionHypothesis => rw [movedMembers, inductionHypothesis]; rfl

theorem moved_map (entries : Entries) :
    moved (.map entries) = .map (entries.changed movedUnder) := by
  rw [moved, movedAt, movedKeywords_eq]

theorem movedUnder_null (keyword : String) : movedUnder keyword .null = .null := by
  unfold movedUnder
  split
  · cases SchemaPlace.ofKeyword keyword <;> rfl
  · unfold movedWithoutParts
    split
    · rfl
    · split <;> rfl

/-! ### Moving twice -/

theorem movedPointer_movedPointer (pointer : String) :
    movedPointer (movedPointer pointer) = movedPointer pointer := by
  by_cases older : olderPlace.toList.isPrefixOf pointer.toList = true
  · rw [movedPointer.eq_def pointer, if_pos older, movedPointer, String.toList_ofList, if_neg]
    simp [olderPlace, newerPlace]
  · rw [movedPointer.eq_def pointer, if_neg older, movedPointer, if_neg older]

theorem movedReference_movedReference (item : Value) :
    movedReference (movedReference item) = movedReference item := by
  cases item with
  | scalar content =>
    cases content with
    | string pointer =>
      show Value.string (movedPointer (movedPointer pointer)) = Value.string (movedPointer pointer)
      rw [movedPointer_movedPointer]
    | null | bool _ | int _ | float _ | date _ | timestamp _ | binary _ => rfl
  | list _ | map _ | set _ | pair _ _ | knot _ _ | again _ _ => rfl

theorem movedMapping_movedMapping (item : Value) :
    movedMapping (movedMapping item) = movedMapping item := by
  cases item with
  | map entries =>
    simp only [movedMapping, List.map_map, Function.comp_def, movedReference_movedReference]
  | scalar _ | list _ | set _ | pair _ _ | knot _ _ | again _ _ => rfl

theorem movedDiscriminator_movedDiscriminator (item : Value) :
    movedDiscriminator (movedDiscriminator item) = movedDiscriminator item := by
  cases item with
  | map entries =>
    refine congrArg Value.map (Entries.changed_changed fun keyword entry _ => ?_)
    split
    · exact movedMapping_movedMapping entry.2
    · rfl
  | scalar _ | list _ | set _ | pair _ _ | knot _ _ | again _ _ => rfl

theorem movedWithoutParts_movedWithoutParts (keyword : String) (item : Value) :
    movedWithoutParts keyword (movedWithoutParts keyword item) =
      movedWithoutParts keyword item := by
  unfold movedWithoutParts
  split
  · exact movedReference_movedReference item
  · split
    · exact movedDiscriminator_movedDiscriminator item
    · rfl

/-! ### Moved values -/

theorem isJson_movedReference (item : Value) : (movedReference item).isJson = item.isJson := by
  unfold movedReference
  split <;> rfl

theorem isJson_movedMapping {item : Value} (json : item.isJson = true) :
    (movedMapping item).isJson = true := by
  cases item with
  | map entries =>
    refine (Value.areAllJson_iff _).2 fun entry member => ?_
    obtain ⟨source, among, rfl⟩ := List.mem_map.1 member
    have here := (Value.areAllJson_iff entries).1 json source among
    exact ⟨here.1, (isJson_movedReference source.2).trans here.2⟩
  | scalar _ | list _ | set _ | pair _ _ | knot _ _ | again _ _ => exact json

theorem isJson_movedWithoutParts (keyword : String) {item : Value} (json : item.isJson = true) :
    (movedWithoutParts keyword item).isJson = true := by
  unfold movedWithoutParts
  split
  · exact (isJson_movedReference item).trans json
  · split
    · cases item with
      | map entries =>
        refine Entries.areAllJson_changed json fun keyword entry member => ?_
        have here := ((Value.areAllJson_iff entries).1 json entry member).2
        split
        · exact isJson_movedMapping here
        · exact here
      | scalar _ | list _ | set _ | pair _ _ | knot _ _ | again _ _ => exact json
    · exact json

/-- What moving does to a value at every place: a JSON value stays one, and nothing is moved
twice. -/
structure IsStable (raw : Value) : Prop where
  json : ∀ place, (movedAt place raw).isJson = true
  again : ∀ place, movedAt place (movedAt place raw) = movedAt place raw

theorem IsStable.scalar {content : Scalar} (json : content.isJson = true) :
    IsStable (.scalar content) where
  json place := by cases place <;> exact json
  again place := by cases place <;> rfl

theorem IsStable.list {items : List Value} (json : Value.areJson items = true)
    (stable : ∀ item ∈ items, IsStable item) : IsStable (.list items) where
  json place := by
    cases place with
    | members =>
      rw [movedAt, movedMembers_eq]
      refine (Value.areJson_iff _).2 fun item member => ?_
      obtain ⟨source, among, rfl⟩ := List.mem_map.1 member
      exact (stable source among).json .schema
    | schema | properties => exact json
  again place := by
    cases place with
    | members =>
      rw [movedAt, movedAt, movedMembers_eq, movedMembers_eq, List.map_map]
      refine congrArg Value.list (List.map_congr_left fun item member => ?_)
      exact (stable item member).again .schema
    | schema | properties => rfl

theorem IsStable.map {entries : Entries} (json : Value.areAllJson entries = true)
    (stable : ∀ entry ∈ entries, IsStable entry.2) : IsStable (.map entries) where
  json place := by
    cases place with
    | schema =>
      rw [movedAt, movedKeywords_eq]
      refine Entries.areAllJson_changed json fun keyword entry member => ?_
      unfold movedUnder
      split
      · exact (stable entry member).json _
      · exact isJson_movedWithoutParts keyword
          ((Value.areAllJson_iff entries).1 json entry member).2
    | properties =>
      rw [movedAt, movedProperties_eq]
      refine (Value.areAllJson_iff _).2 fun entry member => ?_
      obtain ⟨source, among, rfl⟩ := List.mem_map.1 member
      exact ⟨((Value.areAllJson_iff entries).1 json source among).1,
        (stable source among).json .schema⟩
    | members => exact json
  again place := by
    cases place with
    | schema =>
      rw [movedAt, movedAt, movedKeywords_eq, movedKeywords_eq]
      refine congrArg Value.map (Entries.changed_changed fun keyword entry member => ?_)
      unfold movedUnder
      split
      · exact (stable entry member).again _
      · exact movedWithoutParts_movedWithoutParts keyword entry.2
    | properties =>
      rw [movedAt, movedAt, movedProperties_eq, movedProperties_eq, List.map_map]
      refine congrArg Value.map (List.map_congr_left fun entry member => ?_)
      exact congrArg (Prod.mk entry.1) ((stable entry member).again .schema)
    | members => rfl

theorem isStable_of_isJson {raw : Value} (json : raw.isJson = true) : IsStable raw := by
  refine Value.inductionOnJson (motive := fun raw => raw.isJson = true → IsStable raw) json
    (fun content json => .scalar json) (fun items stable json => ?_)
    (fun entries json stable _ => ?_) json
  · exact .list json fun item member =>
      stable item member ((Value.areJson_iff items).1 json item member)
  · exact .map json fun entry member =>
      stable entry member ((Value.areAllJson_iff entries).1 json entry member).2

/-! ### Types -/

/-- The last part of a text is that of what stands behind a separator. -/
theorem lastPart_behind (separator : Char) (front rest : List Char) :
    Text.lastPart separator (front ++ separator :: rest) = Text.lastPart separator rest := by
  have stop (characters others : List Char) :
      (characters ++ separator :: others).takeWhile (· != separator) =
        characters.takeWhile (· != separator) := by
    induction characters with
    | nil => simp
    | cons character further inductionHypothesis =>
      rw [List.cons_append, List.takeWhile_cons, List.takeWhile_cons, inductionHypothesis]
  rw [Text.lastPart, Text.lastPart, List.reverse_append, List.reverse_cons, List.append_assoc,
    List.singleton_append, stop]

theorem targetOf_behind {place : String} (front : List Char)
    (ends : place.toList = front ++ ['/']) (rest : List Char) :
    targetOf (String.ofList (place.toList ++ rest)) =
      String.ofList (Text.lastPart '/' rest) := by
  rw [targetOf, String.toList_ofList, ends, List.append_assoc, List.singleton_append,
    lastPart_behind]

/-- A pointer that is moved is internal before and after, and names the same schema. -/
theorem movedPointer_cases (pointer : String) :
    movedPointer pointer = pointer ∨
      ['#', '/'].isPrefixOf (movedPointer pointer).toList = true ∧
        ['#', '/'].isPrefixOf pointer.toList = true ∧
        targetOf (movedPointer pointer) = targetOf pointer := by
  by_cases older : olderPlace.toList.isPrefixOf pointer.toList = true
  · obtain ⟨rest, same⟩ := List.isPrefixOf_iff_prefix.1 older
    obtain rfl : pointer = String.ofList (olderPlace.toList ++ rest) := by
      rw [same, String.ofList_toList]
    refine Or.inr ⟨?_, ?_, ?_⟩
    · rw [movedPointer, if_pos older, String.toList_ofList]
      rfl
    · rw [String.toList_ofList]
      rfl
    · rw [movedPointer, if_pos older, String.toList_ofList, List.drop_left,
        targetOf_behind "#/components/schemas".toList rfl,
        targetOf_behind "#/definitions".toList rfl]
  · exact Or.inl (if_neg older)

theorem targetOf_movedPointer (pointer : String) :
    targetOf (movedPointer pointer) = targetOf pointer := by
  rcases movedPointer_cases pointer with same | ⟨_, _, same⟩
  · rw [same]
  · exact same

theorem mappedTarget_movedPointer (key pointer : String) :
    mappedTarget key (movedPointer pointer) = mappedTarget key pointer := by
  rcases movedPointer_cases pointer with same | ⟨after, before, same⟩
  · rw [same]
  · rw [mappedTarget, mappedTarget, if_pos after, if_pos before, same]

/-! ### Schemas -/

/-- The keywords of a schema under which nothing is moved. -/
def IsFree (keyword : String) : Prop :=
  partKeywords.contains keyword = false ∧ keyword ≠ "$ref" ∧ keyword ≠ "discriminator"

instance (keyword : String) : Decidable (IsFree keyword) :=
  inferInstanceAs (Decidable (_ ∧ _ ∧ _))

theorem movedUnder_of_isFree {keyword : String} (free : IsFree keyword) (item : Value) :
    movedUnder keyword item = item := by
  unfold movedUnder movedWithoutParts
  rw [free.1]
  simp [free.2.1, free.2.2]

section

variable (entries : Entries)

theorem get_moved (keyword : String) :
    (entries.changed movedUnder).get keyword = movedUnder keyword (entries.get keyword) :=
  Entries.get_changed (movedUnder_null keyword) entries

theorem get?_moved_of_isFree {keyword : String} (free : IsFree keyword) :
    (entries.changed movedUnder).get? keyword = entries.get? keyword := by
  rw [Entries.get?_changed, funext (movedUnder_of_isFree free), Option.map_id']

theorem get_moved_of_isFree {keyword : String} (free : IsFree keyword) :
    (entries.changed movedUnder).get keyword = entries.get keyword := by
  rw [get_moved, movedUnder_of_isFree free]

/-- Moving references changes no annotation. -/
theorem ofEntries_moved : Annotations.ofEntries (entries.changed movedUnder) =
    Annotations.ofEntries entries := by
  have free (keyword : String) (isFree : IsFree keyword) := get_moved_of_isFree entries isFree
  have free? (keyword : String) (isFree : IsFree keyword) := get?_moved_of_isFree entries isFree
  simp only [Annotations.ofEntries, free "description" (by decide), free "type" (by decide),
    free? "default" (by decide), free? "example" (by decide), free "enum" (by decide),
    free? "const" (by decide), free "format" (by decide), free "minimum" (by decide),
    free "maximum" (by decide), free "minLength" (by decide), free "maxLength" (by decide),
    free "pattern" (by decide), free "minItems" (by decide), free "maxItems" (by decide),
    free "nullable" (by decide), free "readOnly" (by decide), free "writeOnly" (by decide)]

theorem reference?_moved :
    Reading.reference? (entries.changed movedUnder) = Reading.reference? entries := by
  have moves : (entries.changed movedUnder).get "$ref" = movedReference (entries.get "$ref") :=
    get_moved entries "$ref"
  unfold Reading.reference?
  rw [moves]
  generalize entries.get "$ref" = item
  cases item with
  | scalar content =>
    cases content with
    | string pointer =>
      show some (TypeExpr.named (Naming.typeIdentifier (targetOf (movedPointer pointer)))) = _
      rw [targetOf_movedPointer]
      rfl
    | null | bool _ | int _ | float _ | date _ | timestamp _ | binary _ => rfl
  | list _ | map _ | set _ | pair _ _ | knot _ _ | again _ _ => rfl

/-- A moved pointer leads the entries of a mapping to the same names. -/
theorem mappedTarget_movedReference (key : String) (item : Value) :
    mappedTarget key (movedReference item).text = mappedTarget key item.text := by
  cases item with
  | scalar content =>
    cases content with
    | string pointer => exact mappedTarget_movedPointer key pointer
    | null | bool _ | int _ | float _ | date _ | timestamp _ | binary _ => rfl
  | list _ | map _ | set _ | pair _ _ | knot _ _ | again _ _ => rfl

/-- The members of a mapping are the same if each of its entries gives the same one. -/
theorem map_ofList_movedReference (member : String × String → TypeExpr)
    (same : ∀ key item, member (key, (movedReference item).text) = member (key, item.text))
    (targets : List (Scalar × Value)) :
    (Ordered.ofList (targets.map fun entry =>
        (entry.1.text, (movedReference entry.2).text))).map member =
      (Ordered.ofList (targets.map fun entry => (entry.1.text, entry.2.text))).map member := by
  have named (change : Value → String) :
      Ordered.ofList (targets.map fun entry => (entry.1.text, change entry.2)) =
        (Ordered.ofList (targets.map fun entry => (entry.1.text, entry.2))).map fun entry =>
          (entry.1, change entry.2) := by
    rw [Placement.map_ofList, List.map_map]
    rfl
  rw [named fun item => (movedReference item).text, named Value.text, List.map_map, List.map_map]
  exact List.map_congr_left fun entry _ => same entry.1 entry.2

/-- What a discriminator has under its two keywords after its pointers are moved. -/
theorem get_movedDiscriminator (parts : Entries) :
    (movedDiscriminator (.map parts)).entries? = some (parts.changed fun keyword item =>
      if keyword == "mapping" then movedMapping item else item) := rfl

theorem variants?_moved :
    Reading.variants? (entries.changed movedUnder) = Reading.variants? entries := by
  have moves : (entries.changed movedUnder).get "discriminator" =
      movedDiscriminator (entries.get "discriminator") := get_moved entries "discriminator"
  unfold Reading.variants? Reading.discriminator?
  rw [moves]
  generalize entries.get "discriminator" = item
  cases item with
  | map parts =>
    have here : (Value.map parts).entries? = some parts := rfl
    have name : (Entries.changed (fun keyword item =>
        if keyword == "mapping" then movedMapping item else item) parts).get "propertyName" =
          Entries.get "propertyName" parts := Entries.get_changed rfl parts
    have mapping : (Entries.changed (fun keyword item =>
        if keyword == "mapping" then movedMapping item else item) parts).get "mapping" =
          movedMapping (Entries.get "mapping" parts) := Entries.get_changed rfl parts
    simp only [get_movedDiscriminator, here, Option.bind_eq_bind, Option.bind_some, name, mapping]
    cases (Entries.get "propertyName" parts).filledString? with
    | none => rfl
    | some propertyName =>
      generalize Entries.get "mapping" parts = found
      cases found with
      | map targets =>
        have entries (targets : Entries) : (Value.map targets).entries? = some targets := rfl
        simp only [movedMapping, entries, Option.bind_some, List.isEmpty_map, List.map_map]
        cases targets.isEmpty with
        | true => rfl
        | false =>
          refine congrArg some (map_ofList_movedReference _ (fun key item => ?_) targets)
          dsimp only
          rw [mappedTarget_movedReference]
      | scalar _ | list _ | set _ | pair _ _ | knot _ _ | again _ _ => rfl
  | scalar _ | list _ | set _ | pair _ _ | knot _ _ | again _ _ => rfl

end

/-! ### Readings -/

/-- What a value says is the same after its references are moved: as a schema, as members, as
properties. -/
structure KeepsReading (raw : Value) : Prop where
  schema : (moved raw).schemaType = raw.schemaType
  members : (movedAt .members raw).reading.members = raw.reading.members
  properties : ∀ required,
    (movedAt .properties raw).reading.properties.map (List.map (Reading.field required)) =
      raw.reading.properties.map (List.map (Reading.field required))

theorem KeepsReading.scalar (content : Scalar) : KeepsReading (.scalar content) where
  schema := rfl
  members := rfl
  properties _ := rfl

theorem KeepsReading.list {items : List Value} (keeps : ∀ item ∈ items, KeepsReading item) :
    KeepsReading (.list items) where
  schema := rfl
  members := by
    rw [movedAt, movedMembers_eq]
    show some (Value.typesOf _) = some (Value.typesOf _)
    rw [Value.typesOf_eq_map, Value.typesOf_eq_map, List.map_map]
    exact congrArg some (List.map_congr_left fun item member => (keeps item member).schema)
  properties _ := rfl

theorem notes_moved (raw : Value) : Reading.notes (moved raw) = Reading.notes raw := by
  cases raw with
  | map entries =>
    rw [moved_map]
    exact ofEntries_moved entries
  | scalar _ | list _ | set _ | pair _ _ | knot _ _ | again _ _ => rfl

section

variable {entries : Entries} (keeps : ∀ keyword, KeepsReading (entries.get keyword))

include keeps

theorem members_moved (keyword : String) (composes : compositionKeywords.contains keyword = true) :
    ((entries.changed movedUnder).get keyword).reading.members =
      (entries.get keyword).reading.members := by
  have part : partKeywords.contains keyword = true := by
    simp only [List.contains_iff_mem] at composes ⊢
    exact List.mem_append_left _ composes
  rw [get_moved, movedUnder, if_pos part, SchemaPlace.ofKeyword, if_pos composes]
  exact (keeps keyword).members

theorem composition?_moved :
    Reading.composition? (entries.changed movedUnder)
        (fun keyword => ((entries.changed movedUnder).get keyword).reading) =
      Reading.composition? entries fun keyword => (entries.get keyword).reading := by
  unfold Reading.composition?
  rw [members_moved keeps "anyOf" rfl, members_moved keeps "oneOf" rfl,
    members_moved keeps "allOf" rfl, variants?_moved]

theorem items_moved :
    ((entries.changed movedUnder).get "items").reading.type =
      (entries.get "items").reading.type :=
  (congrArg Value.schemaType (get_moved entries "items")).trans (keeps "items").schema

theorem properties_moved (required : List String) :
    ((entries.changed movedUnder).get "properties").reading.properties.map
        (List.map (Reading.field required)) =
      (entries.get "properties").reading.properties.map (List.map (Reading.field required)) :=
  (congrArg (fun item : Value => item.reading.properties.map (List.map (Reading.field required)))
    (get_moved entries "properties")).trans ((keeps "properties").properties required)

theorem object_moved :
    Reading.object (entries.changed movedUnder)
        (fun keyword => ((entries.changed movedUnder).get keyword).reading) =
      Reading.object entries fun keyword => (entries.get keyword).reading := by
  have beside : ((entries.changed movedUnder).get "additionalProperties").reading.type =
      (entries.get "additionalProperties").reading.type :=
    (congrArg Value.schemaType (get_moved entries "additionalProperties")).trans
      (keeps "additionalProperties").schema
  rw [Reading.object_eq, Reading.object_eq,
    get_moved_of_isFree entries (show IsFree "required" by decide), beside, properties_moved keeps]

theorem shape_moved :
    Reading.shape (entries.changed movedUnder)
        (fun keyword => ((entries.changed movedUnder).get keyword).reading) =
      Reading.shape entries fun keyword => (entries.get keyword).reading := by
  have present : ((entries.changed movedUnder).get "properties").reading.properties.isSome =
      (entries.get "properties").reading.properties.isSome := by
    have same := congrArg Option.isSome (properties_moved keeps [])
    rwa [Option.isSome_map, Option.isSome_map] at same
  unfold Reading.shape
  simp only [get_moved_of_isFree entries (show IsFree "type" by decide),
    get_moved_of_isFree entries (show IsFree "enum" by decide), object_moved keeps,
    items_moved keeps, present]

theorem schemaType_moved_map :
    (moved (.map entries)).schemaType = (Value.map entries).schemaType := by
  rw [moved_map, Value.schemaType_map, Value.schemaType_map]
  unfold Reading.schema Reading.typeList? Reading.constant?
  simp only [reference?_moved, composition?_moved keeps, items_moved keeps, shape_moved keeps,
    get_moved_of_isFree entries (show IsFree "type" by decide),
    get_moved_of_isFree entries (show IsFree "enum" by decide),
    get_moved_of_isFree entries (show IsFree "nullable" by decide),
    get?_moved_of_isFree entries (show IsFree "const" by decide)]

end

theorem field_moved {raw : Value} (keeps : KeepsReading raw) (required : List String)
    (name : String) :
    Reading.field required (name, moved raw, (moved raw).schemaType) =
      Reading.field required (name, raw, raw.schemaType) := by
  rw [keeps.schema, Reading.field, Reading.field, Reading.describeProperty,
    Reading.describeProperty, notes_moved]

theorem KeepsReading.map {entries : Entries} (keeps : ∀ entry ∈ entries, KeepsReading entry.2) :
    KeepsReading (.map entries) where
  schema := schemaType_moved_map fun _ => Entries.get_cases (.scalar .null) keeps
  members := rfl
  properties required := by
    have renamed : (movedProperties entries).map (fun entry => (entry.1.text, entry.2)) =
        (entries.map fun entry => (entry.1.text, entry.2)).map fun entry =>
          (entry.1, moved entry.2) := by
      rw [movedProperties_eq, List.map_map, List.map_map]
      rfl
    rw [movedAt, Value.properties_map, Value.properties_map, renamed, ← Placement.map_ofList]
    simp only [Option.map_some, List.map_map]
    refine congrArg some (List.map_congr_left fun entry member => ?_)
    obtain ⟨source, among, rfl⟩ := List.mem_map.1 (Placement.mem_of_mem_ofList member)
    exact field_moved (keeps source among) required source.1.text

theorem keepsReading_of_isJson {raw : Value} (json : raw.isJson = true) : KeepsReading raw :=
  Value.inductionOnJson json .scalar (fun _ => .list) fun _ _ => .map

/-- The type of a schema over JSON values is the same after its references are moved. -/
theorem schemaType_moved {raw : Value} (json : raw.isJson = true) :
    (moved raw).schemaType = raw.schemaType :=
  (keepsReading_of_isJson json).schema

/-! ### Changes that only move references -/

/-- A change of schemas over JSON values that at most moves their references. -/
structure OnlyMoves (change : Value → Value) : Prop where
  json : ∀ raw, raw.isJson = true → (change raw).isJson = true
  moves : ∀ raw, raw.isJson = true → moved (change raw) = moved raw

/-- Schemas may stay as they are. -/
theorem onlyMoves_id : OnlyMoves id where
  json _ json := json
  moves _ _ := rfl

/-- All references may be moved. -/
theorem onlyMoves_moved : OnlyMoves moved where
  json _ json := (isStable_of_isJson json).json .schema
  moves _ json := (isStable_of_isJson json).again .schema

theorem moved_of_entries?_eq_none {raw : Value} (json : raw.isJson = true)
    (other : raw.entries? = none) : moved raw = raw := by
  cases raw with
  | map entries => cases other
  | scalar _ | list _ => rfl
  | set _ | pair _ _ | knot _ _ | again _ _ => cases json

theorem isSome_entries?_moved {raw : Value} (json : raw.isJson = true) :
    (moved raw).entries?.isSome = raw.entries?.isSome := by
  cases raw with
  | map entries => rfl
  | scalar _ | list _ => rfl
  | set _ | pair _ _ | knot _ _ | again _ _ => cases json

namespace OnlyMoves

variable {change : Value → Value} (only : OnlyMoves change) {raw : Value} (json : raw.isJson = true)

include only json

theorem isSome_entries? : (change raw).entries?.isSome = raw.entries?.isSome := by
  rw [← isSome_entries?_moved json, ← only.moves raw json,
    isSome_entries?_moved (only.json raw json)]

theorem schemaType : (change raw).schemaType = raw.schemaType := by
  rw [← schemaType_moved json, ← only.moves raw json, schemaType_moved (only.json raw json)]

/-- Only a map is changed. -/
theorem eq_of_entries?_eq_none (other : raw.entries? = none) : change raw = raw := by
  have still : (change raw).entries? = none := by
    rw [← Option.not_isSome_iff_eq_none, only.isSome_entries? json, other]
    exact Bool.false_ne_true
  rw [← moved_of_entries?_eq_none (only.json raw json) still, only.moves raw json,
    moved_of_entries?_eq_none json other]

end OnlyMoves

end Relocation

end ClientModel
