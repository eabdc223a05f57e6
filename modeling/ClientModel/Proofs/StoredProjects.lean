/-
This file proves that a configuration is found as it was stored. Its text has no carriage return,
so reading the file does not change it, and the checks of its record give the configuration that was
written. The last statement is that whatever configuration is found in a file can be stored that
way: its headers have different names, and its timeouts are numbers of the format.
-/

import ClientModel.Program.Loading
import ClientModel.Proofs.WrittenCharacters
import ClientModel.Proofs.WrittenValues

namespace ClientModel

/-! ### Checks that succeed -/

section

variable {Left Right Product Further : Type}

namespace Checked

theorem both_eq_ok_iff (left : Checked Left) (right : Checked Right) (found : Left × Right) :
    both left right = .ok found ↔ left = .ok found.1 ∧ right = .ok found.2 := by
  cases left <;> cases right <;> simp [both, Prod.ext_iff]

theorem map_eq_ok_iff (check : Checked Product) (change : Product → Further) (found : Further) :
    check.map change = .ok found ↔ ∃ product, check = .ok product ∧ change product = found := by
  cases check <;> simp [Except.map]

theorem within_eq_ok_iff (step : Step) (check : Checked Product) (found : Product) :
    within step check = .ok found ↔ check = .ok found := by
  cases check <;> simp [within, Except.mapError]

/-- Checks in a list succeed where each of them does. -/
theorem all_eq_ok_iff (checks : List (Checked Product)) (found : List Product) :
    all checks = .ok found ↔ checks = found.map .ok := by
  induction checks generalizing found with
  | nil => cases found <;> simp [all]
  | cons check rest inductionHypothesis =>
    rw [all, map_eq_ok_iff]
    constructor
    · rintro ⟨⟨first, others⟩, both, rfl⟩
      rw [both_eq_ok_iff, inductionHypothesis] at both
      rw [both.1, both.2]
      rfl
    · intro same
      cases found with
      | nil => cases same
      | cons first others =>
        obtain ⟨here, further⟩ := List.cons.inj same
        refine ⟨(first, others), (both_eq_ok_iff _ _ _).2 ⟨here, ?_⟩, rfl⟩
        exact (inductionHypothesis others).2 further

end Checked

namespace Check

open Checked

theorem itemsFrom_eq_map_ok_iff (check : Value → Checked Product) (position : Nat)
    (items : List Value) (found : List Product) :
    itemsFrom check position items = found.map .ok ↔ items.map check = found.map .ok := by
  induction items generalizing position found with
  | nil => cases found <;> simp [itemsFrom]
  | cons item rest inductionHypothesis =>
    cases found with
    | nil => simp [itemsFrom]
    | cons first others =>
      simp only [itemsFrom, List.map_cons, List.cons.injEq, within_eq_ok_iff, inductionHypothesis]

/-- A list is checked where each of its items is. -/
theorem listOf_eq_ok_iff (check : Value → Checked Product) (value : Value) (found : List Product) :
    listOf check value = .ok found ↔
      ∃ items, value = .list items ∧ items.map check = found.map .ok := by
  cases value with
  | list items => simp [listOf, all_eq_ok_iff, itemsFrom_eq_map_ok_iff]
  | scalar _ | map _ | set _ | pair _ _ | knot _ _ | again _ _ => simp [listOf, fail]

theorem withDefault_eq_ok_iff (name : String) (fallback : Product)
    (check : Value → Checked Product) (fields : Entries) (found : Product) :
    withDefault name fallback check fields = .ok found ↔
      (∃ value, fields.get? name = some value ∧ check value = .ok found) ∨
        (fields.get? name = none ∧ found = fallback) := by
  unfold withDefault
  cases fields.get? name with
  | none => simp [eq_comm]
  | some value => simp [within_eq_ok_iff]

end Check

end

/-! ### Configurations that can be stored -/

/-- An entry whose headers have different names and whose timeout is a number of the format. -/
structure ApiEntry.IsTidy (entry : ApiEntry) : Prop where
  headers : (entry.headers.map Prod.fst).Nodup
  timeout : entry.timeout.IsProper

/-- A configuration of such entries. -/
def Project.IsTidy (project : Project) : Prop := ∀ entry ∈ project.apis, entry.IsTidy

/-! ### Records -/

theorem isTidy_string (text : String) : (Value.string text).IsTidy := .scalar rfl

/-- The keys of a record are texts, different ones if its fields have different names. -/
theorem Entries.areTidyKeys_record {fields : List (String × Value)}
    (distinct : (fields.map Prod.fst).Nodup) :
    Entries.AreTidyKeys (fields.map fun field => (.string field.1, field.2)) := by
  refine ⟨List.forall_mem_map.2 fun _ _ => rfl, ?_⟩
  have keys : (fields.map fun field => ((.string field.1, field.2) : Scalar × Value)).map
      Prod.fst = (fields.map Prod.fst).map Scalar.string := by simp
  rw [keys]
  exact distinct.map fun _ _ same => Scalar.string.inj same

/-- A record of tidy fields under different names is tidy. -/
theorem isTidy_record {fields : List (String × Value)} (distinct : (fields.map Prod.fst).Nodup)
    (each : ∀ field ∈ fields, field.2.IsTidy) : (Value.record fields).IsTidy :=
  .map (Entries.areTidyKeys_record distinct) (List.forall_mem_map.2 each)

theorem ApiEntry.isTidy_record {entry : ApiEntry} (tidy : entry.IsTidy) : entry.record.IsTidy := by
  have headers : (Value.record (entry.headers.map fun header =>
      (header.1, Value.string header.2))).IsTidy := by
    refine ClientModel.isTidy_record ?_ fun field member => ?_
    · rw [List.map_map]
      exact tidy.headers
    · obtain ⟨header, _, rfl⟩ := List.mem_map.1 member
      exact isTidy_string _
  have operationIds : (Value.ofTexts entry.operationIds).IsTidy := by
    refine .list fun item member => ?_
    obtain ⟨operationId, _, rfl⟩ := List.mem_map.1 member
    exact isTidy_string _
  have names : ["name", "spec", "output", "headers", "operation_ids", "timeout"].Nodup := by decide
  refine ClientModel.isTidy_record names ?_
  simp only [List.forall_mem_cons]
  exact ⟨isTidy_string _, isTidy_string _, isTidy_string _, headers, operationIds,
    .scalar tidy.timeout, nofun⟩

theorem Project.isTidy_record {project : Project} (tidy : project.IsTidy) :
    project.record.IsTidy := by
  refine ClientModel.isTidy_record (List.nodup_singleton "apis") ?_
  simp only [List.forall_mem_cons]
  refine ⟨.list fun item member => ?_, nofun⟩
  obtain ⟨entry, among, rfl⟩ := List.mem_map.1 member
  exact ApiEntry.isTidy_record (tidy entry among)

theorem nests_record (room : Nat) {fields : List (String × Value)}
    (each : ∀ field ∈ fields, field.2.Nests room) : (Value.record fields).Nests (room + 1) := by
  refine .map fun entry member => ?_
  obtain ⟨field, among, rfl⟩ := List.mem_map.1 member
  exact each field among

/-- The record of a configuration is nested in four levels. -/
theorem Project.nests_record (project : Project) (more : Nat) :
    project.record.Nests (more + 4) := by
  refine ClientModel.nests_record (more + 3) ?_
  simp only [List.forall_mem_cons]
  refine ⟨.list fun item member => ?_, nofun⟩
  obtain ⟨entry, _, rfl⟩ := List.mem_map.1 member
  refine ClientModel.nests_record (more + 1) ?_
  simp only [List.forall_mem_cons]
  refine ⟨.scalar _, .scalar _, .scalar _, ClientModel.nests_record _ fun field among => ?_,
    .list fun text among => ?_, .scalar _, nofun⟩
  · obtain ⟨header, _, rfl⟩ := List.mem_map.1 among
    exact .scalar _
  · obtain ⟨operationId, _, rfl⟩ := List.mem_map.1 among
    exact .scalar _

/-! ### Checking what was written -/

open Check Checked

theorem listOf_map {Product : Type} {check : Value → Checked Product}
    (make : Product → Value)
    (restores : ∀ product, check (make product) = .ok product) (products : List Product) :
    listOf check (.list (products.map make)) = .ok products := by
  refine (listOf_eq_ok_iff _ _ _).2 ⟨_, rfl, ?_⟩
  rw [List.map_map]
  exact List.map_congr_left fun product _ => restores product

/-- An entry is what its record is checked as. -/
theorem ApiEntry.check_record (entry : ApiEntry) : ApiEntry.check entry.record = .ok entry := by
  have headers : mapOf text (.record (entry.headers.map fun header =>
      (header.1, Value.string header.2))) = .ok entry.headers := by
    refine (all_eq_ok_iff _ _).2 ?_
    rw [List.map_map, List.map_map]
    exact List.map_congr_left fun _ _ => rfl
  have operationIds : listOf text (.ofTexts entry.operationIds) = .ok entry.operationIds :=
    listOf_map Value.string (fun _ => rfl) _
  show (both _ _).map _ = _
  refine (map_eq_ok_iff _ _ _).2 ⟨(entry.name, entry.source, entry.output, entry.headers,
    entry.operationIds, entry.timeout), ?_, rfl⟩
  simp only [both_eq_ok_iff]
  refine ⟨rfl, rfl, rfl, ?_, ?_, rfl⟩
  · exact (withDefault_eq_ok_iff _ _ _ _ _).2 (.inl ⟨_, rfl, headers⟩)
  · exact (withDefault_eq_ok_iff _ _ _ _ _).2 (.inl ⟨_, rfl, operationIds⟩)

/-- A configuration is what its record is checked as. -/
theorem Project.check_record (project : Project) :
    Project.check project.record = .ok project := by
  refine (map_eq_ok_iff _ _ _).2 ⟨project.apis, ?_, rfl⟩
  exact (withDefault_eq_ok_iff _ _ _ _ _).2
    (.inl ⟨_, rfl, listOf_map ApiEntry.record ApiEntry.check_record project.apis⟩)

/-! ### Stored configurations -/

theorem Text.readUtf8_toUTF8 (text : String) : Text.readUtf8 text.toUTF8 = .ok text := by
  unfold readUtf8 String.fromUTF8?
  rw [dif_pos (show text.toUTF8.IsValidUTF8 from text.isValidUTF8)]
  rfl

/-- A configuration is read from its text. -/
theorem Project.ofText_text {project : Project} (tidy : project.IsTidy) (path : String) :
    Project.ofText path project.text = .ok project := by
  have value := isTidy_record tidy
  have blank : ∀ character ∈ "\n".toList, Json.isSpace character = true :=
    List.forall_mem_singleton.2 rfl
  have text : project.text = String.ofList
      (Json.written Json.configurationStyle 0 project.record ++ "\n".toList) := by
    rw [String.ofList_append, String.ofList_toList]
    rfl
  rw [ofText, text, Json.read_written Json.isReadable_configurationStyle value
    (nests_record project 981) blank]
  dsimp only
  rw [check_record]
  rfl

/-- A configuration is found in the file in which it was stored. -/
theorem projectOfFile_text {project : Project} (tidy : project.IsTidy) (path : Path) :
    Context.projectOfFile path (.bytes project.text.toUTF8) = .ok (some project) := by
  have unchanged : Text.withUnifiedLineEnds project.text = project.text := by
    refine Text.withUnifiedLineEnds_of_not_mem _ fun member => ?_
    rw [Project.text, Json.write, String.toList_append, String.toList_ofList] at member
    rcases List.mem_append.1 member with inside | last
    · exact Json.ne_carriageReturn_of_mem_written inside rfl
    · exact absurd last (by decide)
  rw [Context.projectOfFile, Text.readUtf8_toUTF8]
  dsimp only
  rw [unchanged, Project.ofText_text tidy]
  rfl

/-! ### Configurations that were found -/

section

open Check Checked

theorem isTidy_of_get? {fields : Entries} (items : ∀ entry ∈ fields, entry.2.IsTidy) {name : String}
    {value : Value} (found : fields.get? name = some value) : value.IsTidy :=
  items _ (Entries.mem_of_get? found)

/-- A number that is checked is a number of the format. -/
theorem isProper_of_number {value : Value} (tidy : value.IsTidy) {found : Binary64}
    (checked : number value = .ok found) : found.IsProper := by
  unfold number at checked
  split at checked
  · next content =>
    cases checked
    cases tidy with
    | scalar right => exact right
  · next content =>
    split at checked
    · cases checked
    · cases checked
      exact Binary64.isProper_ofInt content
  · cases checked
    exact Binary64.isProper_ofInt _
  · split at checked
    · next read =>
      cases checked
      exact Binary64.isProper_of_readLoose? read
    · cases checked
  · cases checked

/-- Where each step keeps a key, the products have the keys of the items. -/
theorem map_eq_map_of_map_ok {Fault Item Product Key : Type} {step : Item → Except Fault Product}
    {key : Item → Key} {keyOf : Product → Key} {items : List Item} {products : List Product}
    (same : items.map step = products.map .ok)
    (kept : ∀ item product, step item = .ok product → keyOf product = key item) :
    products.map keyOf = items.map key := by
  induction items generalizing products with
  | nil =>
    cases products with
    | nil => rfl
    | cons _ _ => cases same
  | cons item rest inductionHypothesis =>
    cases products with
    | nil => cases same
    | cons product others =>
      obtain ⟨here, further⟩ := List.cons.inj same
      rw [List.map_cons, List.map_cons, kept item product here, inductionHypothesis further]

/-- Headers that are checked have different names. -/
theorem nodup_of_mapOf_text {value : Value} (tidy : value.IsTidy) {headers : Headers}
    (checked : mapOf text value = .ok headers) : (headers.map Prod.fst).Nodup := by
  cases tidy with
  | scalar _ => cases checked
  | list _ => cases checked
  | @map entries keys each =>
    have names : headers.map Prod.fst = entries.map fun entry => entry.1.text := by
      refine map_eq_map_of_map_ok ((all_eq_ok_iff _ _).1 checked) fun entry header step => ?_
      rw [within_eq_ok_iff, map_eq_ok_iff] at step
      obtain ⟨_, _, rfl⟩ := step
      rfl
    have composed : (entries.map fun entry => entry.1.text) =
        (entries.map Prod.fst).map Scalar.text := by simp
    rw [names, composed]
    refine List.Nodup.map_on (fun key member key' member' equal => ?_) keys.2
    obtain ⟨entry, among, rfl⟩ := List.mem_map.1 member
    obtain ⟨entry', among', rfl⟩ := List.mem_map.1 member'
    obtain ⟨name, same⟩ := Json.exists_string_of_isJsonKey (keys.1 entry among)
    obtain ⟨name', same'⟩ := Json.exists_string_of_isJsonKey (keys.1 entry' among')
    rw [same, same'] at equal ⊢
    exact congrArg Scalar.string equal

/-- An entry that is checked can be stored. -/
theorem ApiEntry.isTidy_of_check {value : Value} (tidy : value.IsTidy) {entry : ApiEntry}
    (checked : ApiEntry.check value = .ok entry) : entry.IsTidy := by
  cases tidy with
  | scalar _ => cases checked
  | list _ => cases checked
  | @map fields keys each =>
    obtain ⟨parts, found, rfl⟩ := (map_eq_ok_iff _ _ _).1
      (show (ApiEntry.ofFields fields) = .ok entry from checked)
    simp only [both_eq_ok_iff, withDefault_eq_ok_iff] at found
    obtain ⟨_, _, _, headers, _, timeout⟩ := found
    constructor
    · rcases headers with ⟨value, here, checked⟩ | ⟨_, absent⟩
      · exact nodup_of_mapOf_text (isTidy_of_get? each here) checked
      · show (parts.2.2.2.1.map Prod.fst).Nodup
        rw [absent]
        exact List.nodup_nil
    · rcases timeout with ⟨value, here, checked⟩ | ⟨_, absent⟩
      · exact isProper_of_number (isTidy_of_get? each here) checked
      · show parts.2.2.2.2.2.IsProper
        rw [absent]
        exact Binary64.isProper_ofInt 30

/-- A configuration that is checked can be stored. -/
theorem Project.isTidy_of_check {value : Value} (tidy : value.IsTidy) {project : Project}
    (checked : Project.check value = .ok project) : project.IsTidy := by
  cases tidy with
  | scalar _ => cases checked
  | list _ => cases checked
  | @map fields keys each =>
    obtain ⟨apis, found, rfl⟩ := (map_eq_ok_iff _ _ _).1
      (show Except.map (fun apis => (⟨apis⟩ : Project)) _ = .ok project from checked)
    intro entry member
    rcases (withDefault_eq_ok_iff _ _ _ _ _).1 found with ⟨value, here, listed⟩ | ⟨_, absent⟩
    · obtain ⟨items, rfl, same⟩ := (listOf_eq_ok_iff _ _ _).1 listed
      have right := isTidy_of_get? each here
      cases right with
      | list each =>
        have stands : (.ok entry : Checked ApiEntry) ∈ items.map ApiEntry.check :=
          same ▸ List.mem_map_of_mem member
        obtain ⟨item, among, checked⟩ := List.mem_map.1 stands
        exact ApiEntry.isTidy_of_check (each item among) checked
    · rw [absent] at member
      cases member

end

/-- A configuration that is found in a file can be stored. -/
theorem Project.isTidy_of_projectOfFile {path : Path} {content : FileContent} {project : Project}
    (found : Context.projectOfFile path content = .ok (some project)) : project.IsTidy := by
  unfold Context.projectOfFile at found
  split at found
  · cases found
  · cases found
  · cases found
  · cases found
  · split at found
    · cases found
    · next text _ =>
      unfold Project.ofText at found
      cases read : Json.read (Text.withUnifiedLineEnds text) with
      | ok value =>
        rw [read] at found
        dsimp only at found
        cases checked : Project.check value with
        | ok other =>
          rw [checked] at found
          cases found
          exact Project.isTidy_of_check (Json.isTidy_of_read read) checked
        | error issues =>
          rw [checked] at found
          cases found
      | error cause =>
        rw [read] at found
        cases cause <;> cases found

end ClientModel
