/-
This file proves that types are read back from their records. A record holds a literal in plain
form, so the literals are plain values here: finite numbers, words, texts, and lists and maps of
these. The record of such a type is a plain value itself, whatever record a literal looks like, and
checking it gives the type that was written. So types that are written alike are the same.
-/

import ClientModel.Proofs.StoredProjects
import ClientModel.Proofs.TypeParts
import ClientModel.Types.Reading

namespace ClientModel

/-! ### Plain values -/

/-- A scalar that a record holds as it is: a float is a finite number. -/
def Scalar.IsPlain : Scalar → Prop
  | .null | .bool _ | .int _ | .string _ | .float (.finite _ _ _) => True
  | .float .notANumber | .float (.infinite _) | .date _ | .timestamp _ | .binary _ => False

/-- A value of plain scalars whose maps have texts as keys, each once. -/
inductive Value.IsPlain : Value → Prop
  | scalar {content : Scalar} (right : content.IsPlain) : IsPlain (.scalar content)
  | list {items : List Value} (each : ∀ item ∈ items, IsPlain item) : IsPlain (.list items)
  | map {entries : Entries} (keys : entries.AreTidyKeys)
    (each : ∀ entry ∈ entries, IsPlain entry.2) : IsPlain (.map entries)

theorem Scalar.plain_of_isPlain {content : Scalar} (right : content.IsPlain) :
    content.plain = content := by
  cases content with
  | float number => cases number <;> first | rfl | cases right
  | null | bool _ | int _ | string _ => rfl
  | date _ | timestamp _ | binary _ => cases right

theorem Scalar.plainKey_of_isJsonKey {key : Scalar} (text : key.isJsonKey = true) :
    key.plainKey = key := by
  cases key <;> first | rfl | cases text

namespace Value

theorem plainItems_eq_map (items : List Value) : plainItems items = items.map plain := by
  induction items with
  | nil => rfl
  | cons item rest inductionHypothesis => rw [plainItems, inductionHypothesis, List.map_cons]

theorem plainEntries_eq_foldl (entries : List (Scalar × Value)) (before : Entries) :
    plainEntries entries before =
      (entries.map fun entry => (entry.1.plainKey, entry.2.plain)).foldl
        (fun written entry => Ordered.put entry.1 entry.2 written) before := by
  induction entries generalizing before with
  | nil => rfl
  | cons entry rest inductionHypothesis =>
    rw [plainEntries, inductionHypothesis, List.map_cons, List.foldl_cons]

/-- A plain value is its own plain form. -/
theorem plain_of_isPlain {value : Value} (right : value.IsPlain) : value.plain = value := by
  induction right with
  | scalar right => exact congrArg scalar (Scalar.plain_of_isPlain right)
  | @list items _ each =>
    have same : items.map plain = items := (List.map_congr_left each).trans (List.map_id _)
    rw [plain, plainItems_eq_map, same]
  | @map entries keys _ each =>
    have same : (entries.map fun entry => (entry.1.plainKey, entry.2.plain)) = entries := by
      refine (List.map_congr_left fun entry member => ?_).trans (List.map_id _)
      rw [Scalar.plainKey_of_isJsonKey (keys.1 entry member), each entry member]
      rfl
    rw [plain, plainEntries_eq_foldl, same]
    exact congrArg map (Ordered.ofList_of_nodup keys.2)

theorem isPlain_string (text : String) : (string text).IsPlain := .scalar trivial

theorem isPlain_ofText? (text : Option String) : (ofText? text).IsPlain := by
  cases text <;> exact .scalar trivial

theorem isPlain_ofTexts (texts : List String) : (ofTexts texts).IsPlain := by
  refine .list fun item member => ?_
  obtain ⟨text, _, rfl⟩ := List.mem_map.1 member
  exact isPlain_string text

/-- A record of plain fields under different names is plain. -/
theorem isPlain_record {fields : List (String × Value)} (distinct : (fields.map Prod.fst).Nodup)
    (each : ∀ field ∈ fields, field.2.IsPlain) : (record fields).IsPlain :=
  .map (Entries.areTidyKeys_record distinct) (List.forall_mem_map.2 each)

end Value

/-! ### Parts of records -/

open Check Checked

theorem Description.isPlain_recordOf? (description : Option Description) :
    (Description.recordOf? description).IsPlain := by
  cases description with
  | none => exact .scalar trivial
  | some description =>
    have names : ["summary", "constraints"].Nodup := by decide
    refine Value.isPlain_record names ?_
    simp only [List.forall_mem_cons]
    exact ⟨Value.isPlain_ofText? _, Value.isPlain_ofTexts _, nofun⟩

/-- A description is what its record is checked as. -/
theorem Description.check_record (description : Description) :
    Description.check description.record = .ok description := by
  have summary : optionalText (.ofText? description.summary) = .ok description.summary := by
    cases description.summary <;> rfl
  have constraints : listOf text (.ofTexts description.constraints) =
      .ok description.constraints :=
    listOf_map Value.string (fun _ => rfl) _
  refine (map_eq_ok_iff _ _ _).2 ⟨(description.summary, description.constraints), ?_, rfl⟩
  simp only [both_eq_ok_iff, withDefault_eq_ok_iff]
  exact ⟨.inl ⟨_, rfl, summary⟩, .inl ⟨_, rfl, constraints⟩⟩

theorem Description.checkOptional_recordOf? (description : Option Description) :
    Description.checkOptional (Description.recordOf? description) = .ok description := by
  cases description with
  | none => rfl
  | some description =>
    show (Description.check description.record).map some = .ok (some description)
    rw [check_record]
    rfl

theorem FieldLabel.isPlain_record (label : FieldLabel) {type : Value} (right : type.IsPlain) :
    (label.record type).IsPlain := by
  have names : ["name", "identifier", "type", "optional", "description"].Nodup := by decide
  refine Value.isPlain_record names ?_
  simp only [List.forall_mem_cons]
  exact ⟨Value.isPlain_string _, Value.isPlain_string _, right, .scalar trivial,
    Description.isPlain_recordOf? _, nofun⟩

namespace TypeExpr

theorem isPlain_tagged (tag : String) {name : String} (other : "kind" ≠ name) {value : Value}
    (right : value.IsPlain) : (tagged tag [(name, value)]).IsPlain := by
  have names : ["kind", name].Nodup := by simpa using other
  refine Value.isPlain_record names ?_
  simp only [List.forall_mem_cons]
  exact ⟨Value.isPlain_string tag, right, nofun⟩

theorem recordsOfMembers_eq_map (members : List TypeExpr) :
    recordsOfMembers members = members.map record := by
  induction members with
  | nil => rfl
  | cons member rest inductionHypothesis =>
    rw [recordsOfMembers, inductionHypothesis, List.map_cons]

theorem recordsOfFields_eq_map (fields : List (FieldLabel × TypeExpr)) :
    recordsOfFields fields = fields.map fun field => field.1.record field.2.record := by
  induction fields with
  | nil => rfl
  | cons field rest inductionHypothesis =>
    rw [recordsOfFields, inductionHypothesis, List.map_cons]

/-- A field is what its record is checked as, if that holds of its type. -/
theorem checkFields_record (label : FieldLabel) {type : TypeExpr}
    (right : check type.record = .ok type) (position : Nat) (rest : List Value) :
    checkFields position (label.record type.record :: rest) =
      .ok (label, type) :: checkFields (position + 1) rest := by
  refine congrArg (· :: _) ((within_eq_ok_iff _ _ _).2 ?_)
  refine (map_eq_ok_iff _ _ _).2
    ⟨((label.name, label.identifier), type, label.optional, label.description), ?_, rfl⟩
  simp only [both_eq_ok_iff, withDefault_eq_ok_iff, within_eq_ok_iff]
  exact ⟨⟨rfl, rfl⟩, right, .inl ⟨_, rfl, rfl⟩,
    .inl ⟨_, rfl, Description.checkOptional_recordOf? label.description⟩⟩

theorem checkFields_records {fields : List (FieldLabel × TypeExpr)}
    (each : ∀ field ∈ fields, check field.2.record = .ok field.2) (position : Nat) :
    checkFields position (recordsOfFields fields) = fields.map .ok := by
  induction fields generalizing position with
  | nil => rfl
  | cons field rest inductionHypothesis =>
    obtain ⟨here, further⟩ := List.forall_mem_cons.1 each
    rw [recordsOfFields, checkFields_record field.1 here, inductionHypothesis further,
      List.map_cons]

theorem checkMembers_records {members : List TypeExpr}
    (each : ∀ member ∈ members, check member.record = .ok member) (position : Nat) :
    checkMembers position (recordsOfMembers members) = members.map .ok := by
  induction members generalizing position with
  | nil => rfl
  | cons member rest inductionHypothesis =>
    obtain ⟨here, further⟩ := List.forall_mem_cons.1 each
    rw [recordsOfMembers, checkMembers, here, inductionHypothesis further, List.map_cons]
    rfl

/-! ### Types of plain literals -/

/-- A type all of whose literals are plain values. -/
def IsPlain (type : TypeExpr) : Prop :=
  ∀ value, type.Contains (.literal value) → value.IsPlain

theorem isPlain_iff (type : TypeExpr) :
    type.IsPlain ↔
      (∀ value, type = .literal value → value.IsPlain) ∧ ∀ part ∈ type.parts, part.IsPlain := by
  constructor
  · intro right
    exact ⟨fun value same => right value (same ▸ .refl type), fun part member value contained =>
      right value (.trans (.of_mem_parts member) contained)⟩
  · rintro ⟨here, further⟩ value contained
    rcases contained.same_or_in_part with same | ⟨part, member, contained⟩
    · exact here value same
    · exact further part member value contained

/-- The record of a type of plain literals is a plain value. -/
theorem isPlain_record {type : TypeExpr} (right : type.IsPlain) : type.record.IsPlain := by
  induction type using inductionOnParts with
  | step type inductionHypothesis =>
    obtain ⟨literals, parts⟩ := (isPlain_iff type).1 right
    have each : ∀ part ∈ type.parts, part.record.IsPlain := fun part member =>
      inductionHypothesis part member (parts part member)
    cases type with
    | named name => exact isPlain_tagged _ (by decide) (Value.isPlain_string name)
    | primitive kind => exact isPlain_tagged _ (by decide) (Value.isPlain_string kind.name)
    | literal value =>
      have plain := literals value rfl
      exact isPlain_tagged _ (by decide) ((Value.plain_of_isPlain plain).symm ▸ plain)
    | array inner | mapping inner | nullable inner =>
      exact isPlain_tagged _ (by decide) (each inner (List.mem_singleton_self inner))
    | union members | intersection members =>
      refine isPlain_tagged _ (by decide) (.list ?_)
      rw [recordsOfMembers_eq_map]
      exact List.forall_mem_map.2 each
    | object fields =>
      refine isPlain_tagged _ (by decide) (.list ?_)
      rw [recordsOfFields_eq_map]
      refine List.forall_mem_map.2 fun field member => ?_
      exact field.1.isPlain_record (List.forall_mem_map.1 each field member)
    | unknown | noContent =>
      exact Value.isPlain_record (List.nodup_singleton "kind")
        (List.forall_mem_singleton.2 (Value.isPlain_string _))

/-- A type of plain literals is what its record is checked as. -/
theorem check_record {type : TypeExpr} (right : type.IsPlain) : check type.record = .ok type := by
  induction type using inductionOnParts with
  | step type inductionHypothesis =>
    obtain ⟨literals, parts⟩ := (isPlain_iff type).1 right
    have each : ∀ part ∈ type.parts, check part.record = .ok part := fun part member =>
      inductionHypothesis part member (parts part member)
    -- The tag decides which parts are read; a literal is not looked into, whatever tag it has.
    cases type with
    | named name => rfl
    | primitive kind => cases kind <;> rfl
    | literal value =>
      show Except.ok (literal value.plain) = _
      rw [Value.plain_of_isPlain (literals value rfl)]
    | array inner | mapping inner | nullable inner =>
      have inside : check inner.record = .ok inner := each inner (List.mem_singleton_self inner)
      show within _ ((within _ (check inner.record)).map _) = _
      rw [inside]
      rfl
    | union members | intersection members =>
      have inside : all (checkMembers 0 (recordsOfMembers members)) = .ok members :=
        (all_eq_ok_iff _ _).2 (checkMembers_records each 0)
      show within _ ((within _ (all (checkMembers 0 (recordsOfMembers members)))).map _) = _
      rw [inside]
      rfl
    | object fields =>
      have inside : all (checkFields 0 (recordsOfFields fields)) = .ok fields :=
        (all_eq_ok_iff _ _).2 (checkFields_records (List.forall_mem_map.1 each) 0)
      show within _ ((within _ (all (checkFields 0 (recordsOfFields fields)))).map _) = _
      rw [inside]
      rfl
    | unknown | noContent => rfl

end TypeExpr

end ClientModel
