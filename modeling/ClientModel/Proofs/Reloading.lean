/-
This file proves that a configuration that was stored is loaded as it was. The run that loads may
find other variables around it than the one that stored. The main statement is about both ways to
load: one finds the configuration itself, and the other differs from it in the values of headers
alone, of which each is filled.
-/

import ClientModel.Proofs.StoredProjects
import ClientModel.Proofs.Storing

namespace ClientModel.Context

open ClientModel.Action

/-- A configuration that was stored is found in its place. -/
theorem run_loadStored_of_write {context : Context} {named : Option Path} {project : Project}
    (tidy : project.IsTidy) {desk : Desk} {before : FileTree}
    (written : before.write desk.working (context.surroundings.configurationPath named)
      project.text.toUTF8 = .ok desk.files) :
    (context.loadStored named).run desk = (.ok (some project), desk) := by
  rw [run_loadStored, FileTree.read_of_write written, projectOfFile_text tidy]

/-- Storing a configuration and loading it from the same place gives that configuration. Where the
placeholders are filled, it gives the configuration with each value of a header filled and with
nothing else changed. Storing fails only where the file cannot be written, and changes nothing
then. -/
theorem load_after_store {project : Project} (tidy : project.IsTidy) {storing loading : Context}
    {named again : Option Path}
    (place : loading.surroundings.configurationPath again =
      storing.surroundings.configurationPath named) (desk : Desk) :
    let path := storing.surroundings.configurationPath named
    (∀ files, desk.files.write desk.working path project.text.toUTF8 = .ok files →
      let left := { desk with files := files }
      (storing.store named project).run desk = (.ok path, left) ∧
        (loading.loadStored again).run left = (.ok (some project), left) ∧
        (loading.loadFilled again).run left =
          (.ok (some ⟨project.apis.map fun entry => { entry with
            headers := entry.headers.map fun header =>
              (header.1, fillPlaceholders loading.environment header.2) }⟩), left)) ∧
    ∀ fault, desk.files.write desk.working path project.text.toUTF8 = .error fault →
      (storing.store named project).run desk =
        (.error (.defect (.unwritableFile path.text fault)), desk) := by
  intro path
  refine ⟨fun files written => ?_, fun fault refused => ?_⟩
  · have found : (loading.loadStored again).run { desk with files := files } =
        (.ok (some project), { desk with files := files }) := by
      rw [show path = _ from place.symm] at written
      exact run_loadStored_of_write tidy written
    refine ⟨?_, found, ?_⟩
    · rw [run_store, written]
    · rw [run_loadFilled, found]
      rfl
  · rw [run_store, refused]

/-- A configuration with letters beyond ASCII, a line feed in a header, and no end to waiting. -/
def letteredProject : Project where
  apis := [⟨"P\xe4ckchen 🐾", "http://petstore/", "-",
    [("X-Key", "$\x7bKEY:none\x7d"), ("X-Note", "a\n\"b\"")], ["list", "get_/\xe9"],
    .infinite false⟩]

theorem load_after_store_letteredProject :
    let loading := quietContext [("KEY", "secret")]
    ∃ files, keyDesk.files.write keyDesk.working ⟨"/", ["clientsynth.json"]⟩
        letteredProject.text.toUTF8 = .ok files ∧
      let left := { keyDesk with files := files }
      ((quietContext []).store bareOptions.configuration letteredProject).run keyDesk =
          (.ok ⟨"/", ["clientsynth.json"]⟩, left) ∧
        (loading.loadStored bareOptions.configuration).run left =
          (.ok (some letteredProject), left) ∧
        ((loading.loadFilled bareOptions.configuration).run left).1 =
          .ok (some ⟨letteredProject.apis.map fun entry =>
            { entry with headers := [("X-Key", "secret"), ("X-Note", "a\n\"b\"")] }⟩) := by
  intro loading
  have tidy : letteredProject.IsTidy := by
    intro entry member
    obtain rfl := List.mem_singleton.1 member
    exact ⟨by decide, trivial⟩
  have place : loading.surroundings.configurationPath bareOptions.configuration =
      (quietContext []).surroundings.configurationPath bareOptions.configuration := rfl
  obtain ⟨files, written⟩ : ∃ files, keyDesk.files.write keyDesk.working
      ⟨"/", ["clientsynth.json"]⟩ letteredProject.text.toUTF8 = .ok files := ⟨_, rfl⟩
  obtain ⟨stored, found, filled⟩ := (load_after_store tidy place keyDesk).1 files written
  have key : fillPlaceholders [("KEY", "secret")] "$\x7bKEY:none\x7d" = "secret" := by decide
  have note : fillPlaceholders [("KEY", "secret")] "a\n\"b\"" = "a\n\"b\"" := by decide
  refine ⟨files, written, stored, found, ?_⟩
  rw [filled, ← key, ← note]
  rfl

end ClientModel.Context
