/-
This file says what a document consists of when it was understood: what was read of the decoded
map, part by part. The main statement is that its named schemas have the names of the map in which
they are declared.
-/

import ClientModel.Document.Extraction
import ClientModel.Proofs.Placement
import Mathlib.Data.List.Forall2

namespace ClientModel

/-! ### Steps that may fail -/

section

variable {Fault Product Further : Type}

/-- Two steps succeed if the first does and the second does on its product. -/
theorem bind_eq_ok_iff (first : Except Fault Product) (second : Product → Except Fault Further)
    (further : Further) :
    first >>= second = .ok further ↔
      ∃ product, first = .ok product ∧ second product = .ok further := by
  cases first <;> simp [bind, Except.bind]

/-- A step for every item of a list succeeds if all the steps do. -/
theorem mapM_eq_ok_iff (step : Product → Except Fault Further) (items : List Product)
    (results : List Further) :
    items.mapM step = .ok results ↔
      List.Forall₂ (fun item result => step item = .ok result) items results := by
  induction items generalizing results with
  | nil => simp [pure, Except.pure, eq_comm]
  | cons item rest inductionHypothesis =>
    simp only [List.mapM_cons, bind_eq_ok_iff, inductionHypothesis, List.forall₂_cons_left_iff]
    constructor
    · rintro ⟨result, here, others, further, same⟩
      exact ⟨result, others, here, further, (Except.ok.inj same).symm⟩
    · rintro ⟨result, others, here, further, rfl⟩
      exact ⟨result, here, others, further, rfl⟩

end

namespace Extraction

/-! ### Named schemas -/

/-- The schemas of a document are read of the decoded map by the rules of its version. -/
theorem schemas_of_documentOf {entries : Entries} {understood : Document}
    (reading : documentOf entries = .ok understood) :
    schemas entries (isSwagger understood.version) = .ok understood.schemas := by
  obtain ⟨version, _, made⟩ := (bind_eq_ok_iff _ _ _).1 reading
  simp only [document] at made
  split at made
  all_goals
    simp only [bind_eq_ok_iff, pure, Except.pure, Except.ok.injEq] at made
    obtain ⟨_, _, schemas, declared, _, _, rfl⟩ := made
    exact declared

/-- The map of a decoded document in which its schemas have their names. -/
def namedSchemas (entries : Entries) (swagger : Bool) : Entries :=
  if swagger then (entries.get "definitions").entriesOrEmpty
  else ((entries.get "components").entriesOrEmpty.get "schemas").entriesOrEmpty

/-- Every schema that is declared under a name is a schema of the document. -/
theorem exists_mem_schemas {entries : Entries} {swagger : Bool}
    {read : List (String × SchemaNode)} (reading : schemas entries swagger = .ok read)
    {entry : Scalar × Value} (member : entry ∈ namedSchemas entries swagger) :
    ∃ node, (entry.1.text, node) ∈ read := by
  simp only [schemas, bind_eq_ok_iff, mapM_eq_ok_iff, pure, Except.pure, Except.ok.injEq]
    at reading
  obtain ⟨named, made, rfl⟩ := reading
  have sources : List.Forall₂ (fun entry result => ∃ node, schemaOf entry.2 = .ok node ∧
      (entry.1.text, node) = result) (namedSchemas entries swagger) named := by
    cases swagger <;> exact made
  obtain ⟨_, among, node, _, rfl⟩ := Placement.exists_mem_of_forall₂ sources member
  have key : entry.1.text ∈ (Ordered.ofList named).map Prod.fst := by
    rw [Placement.ofList_eq_placeAll, Placement.map_key_placeAll, List.mem_eraseDups]
    exact List.mem_map_of_mem among
  obtain ⟨⟨_, written⟩, kept, rfl⟩ := List.mem_map.1 key
  exact ⟨written, kept⟩

end Extraction

end ClientModel
