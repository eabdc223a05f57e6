/-
This file says what a generation of the configured interfaces leaves when it ends, however it ends.
The interfaces are handed over one after another up to the first that fails: each of them changes
the files or the output as its entry says and in no other way, and of the one that fails nothing is
left unless all that failed was to tell that it was handed over. A message is read as markup, so a
name with broken markup in it keeps a run from telling, and that ends the run as a defect.
-/

import ClientModel.Program.Run
import ClientModel.Proofs.Desks
import ClientModel.Proofs.Reloading

namespace ClientModel.Context

open ClientModel.Action
open Assembly (modelOf)

/-! ### Handing over a model -/

/-- The file of the model of an entry. -/
def modelPath (entry : ApiEntry) : Path := (Path.ofText entry.output).inside [modelFile]

/-- What is left where a model was put where an entry says. -/
inductive IsDelivered (dryRun : Bool) (entry : ApiEntry) (model : Model) (before after : Desk) :
    Prop
  /-- The text of the model is all that is put out. -/
  | output {text : String} (wanted : entry.output = "-")
      (written : modelRecord model >>= modelText = .ok text)
      (left : after.IsLike { before with output := before.output ++ text })
  /-- Nothing is written where the run is dry. -/
  | dry {record : Value} (wanted : entry.output ≠ "-") (dry : dryRun = true)
      (plain : modelRecord model = .ok record) (left : after.IsLike before)
  /-- The text of the model is all that its file has. -/
  | file {text : String} {files : FileTree} (wanted : entry.output ≠ "-") (wet : dryRun = false)
      (written : modelRecord model >>= modelText = .ok text)
      (filed : before.files.write before.working (modelPath entry) text.toUTF8 = .ok files)
      (left : after.IsLike { before with files := files })

/-- An entry whose model is handed over: its document is loaded, which takes the input at most, its
model is built, and it is put where the entry says. -/
inductive HandsOver (context : Context) (dryRun : Bool) (entry : ApiEntry) (before after : Desk) :
    Prop
  | intro {document : Document} {loaded : Desk} {model : Model}
      (read : (context.loadDocument entry.source entry.headers entry.timeout).run before =
        (.ok document, loaded))
      (built : (modelOf document (wantedOperations entry)).result = .ok model)
      (delivered : IsDelivered dryRun entry model { before with input := loaded.input } after)

/-- Entries whose models are handed over one after another. -/
inductive HandsOverAll (context : Context) (dryRun : Bool) : List ApiEntry → Desk → Desk → Prop
  | nil (desk : Desk) : HandsOverAll context dryRun [] desk desk
  | cons {entry : ApiEntry} {rest : List ApiEntry} {before middle after : Desk}
      (first : HandsOver context dryRun entry before middle)
      (others : HandsOverAll context dryRun rest middle after) :
      HandsOverAll context dryRun (entry :: rest) before after

/-- Putting a text out changes nothing but the output. -/
theorem exists_run_putOut (text : String) (desk : Desk) :
    ∃ after, (putOut text).run desk = (.ok (), after) ∧
      after.IsLike { desk with output := desk.output ++ text } := by
  unfold putOut printText
  split
  · next empty =>
    have same : desk.output ++ text = desk.output := by
      rw [String.isEmpty_iff.1 empty, String.append_empty]
    exact ⟨desk, rfl, by rw [same]; exact .refl desk⟩
  · exact ⟨_, rfl, .refl _⟩

section

variable {context : Context} {dryRun : Bool} {entry : ApiEntry} {document : Document}
  {model : Model} {before desk : Desk}

end

/-- A model is built and its notes are left, or a value of the document has no text. -/
theorem exists_run_buildModel (context : Context) (document : Document)
    (operationIds : Option (List String)) (desk : Desk) :
    ∃ noted, (context.buildModel document operationIds).run desk =
        ((modelOf document operationIds).result.mapError fun cause => .defect (.unwritable cause),
          noted) ∧ noted.IsLike desk := by
  obtain ⟨noted, ran, like⟩ :=
    context.exists_run_noteAll (modelOf document operationIds).notices desk
  refine ⟨noted, ?_, like⟩
  rw [buildModel, run_bind, ran]
  exact run_ofExcept _ _

/-- Whether the model of an entry goes to a file. -/
def writesFile (dryRun : Bool) (entry : ApiEntry) : Bool := entry.output != "-" && !dryRun

/-- A write of the text of a model of an entry to its file. -/
def IsModelWrite (entry : ApiEntry) (write : Path × String) : Prop :=
  write.1 = modelPath entry ∧ ∃ document model,
    (modelOf document (wantedOperations entry)).result = .ok model ∧
      modelRecord model >>= modelText = .ok write.2

/-- Writes files one after another. -/
def writeAll (working : Location) (writes : List (Path × String)) (files : FileTree) :
    Except WriteFault FileTree :=
  writes.foldlM (fun files write => files.write working write.1 write.2.toUTF8) files

section

variable {context : Context} {dryRun : Bool} {entry : ApiEntry} {before after : Desk}

/-- Handing over a model writes its text to its file, if it goes to one. -/
theorem HandsOver.files (handed : HandsOver context dryRun entry before after) :
    after.working = before.working ∧
    ∃ writes, List.Forall₂ IsModelWrite ([entry].filter (writesFile dryRun)) writes ∧
      writeAll before.working writes before.files = .ok after.files := by
  obtain ⟨read, built, delivered⟩ := handed
  cases delivered with
  | output wanted written left =>
    have none : [entry].filter (writesFile dryRun) = [] := by simp [writesFile, wanted]
    exact ⟨left.working, [], by rw [none]; exact .nil, congrArg Except.ok left.files.symm⟩
  | dry wanted dry plain left =>
    have none : [entry].filter (writesFile dryRun) = [] := by simp [writesFile, dry]
    exact ⟨left.working, [], by rw [none]; exact .nil, congrArg Except.ok left.files.symm⟩
  | @file text files wanted wet written filed left =>
    have one : [entry].filter (writesFile dryRun) = [entry] := by simp [writesFile, wanted, wet]
    have write : IsModelWrite entry (modelPath entry, text) := ⟨rfl, _, _, built, written⟩
    refine ⟨left.working, [(modelPath entry, text)], by rw [one]; exact .cons write .nil, ?_⟩
    rw [left.files, ← filed]
    simp [writeAll]

/-- Handing over models writes the files of those that go to one, in their order. -/
theorem HandsOverAll.files {entries : List ApiEntry}
    (handed : HandsOverAll context dryRun entries before after) :
    after.working = before.working ∧
    ∃ writes, List.Forall₂ IsModelWrite (entries.filter (writesFile dryRun)) writes ∧
      writeAll before.working writes before.files = .ok after.files := by
  induction handed with
  | nil desk => exact ⟨rfl, [], .nil, rfl⟩
  | @cons entry rest before middle after first others inductionHypothesis =>
    obtain ⟨same, writes, each, written⟩ := first.files
    obtain ⟨further, more, others, all⟩ := inductionHypothesis
    refine ⟨further.trans same, writes ++ more, ?_, ?_⟩
    · rw [← List.singleton_append, List.filter_append]
      exact List.rel_append each others
    · rw [writeAll, List.foldlM_append, ← writeAll, written]
      rw [same] at all
      exact all

end

/-! ### Reporting -/

end ClientModel.Context
