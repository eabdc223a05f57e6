/-
This file says which actions change files. Loading a document and telling a message change none, and
storing a configuration writes one file. An action that stores after others that change no file
therefore fails with the files as they were, or leaves the files that were meant; what comes behind
decides how it ends then.
-/

import ClientModel.Proofs.Desks

namespace ClientModel

variable {Product Further : Type}

/-! ### Actions that change no file -/

namespace Action

/-- An action after which every desk has the files it had. -/
def LeavesFiles (action : Action Product) : Prop :=
  ∀ desk, (action.run desk).2.files = desk.files ∧ (action.run desk).2.working = desk.working

theorem TakesOnlyInput.leavesFiles {action : Action Product} (takes : action.TakesOnlyInput) :
    action.LeavesFiles :=
  fun desk => ⟨(takes desk).files, (takes desk).working⟩

theorem leavesFiles_bind {first : Action Product} {second : Product → Action Further}
    (begins : first.LeavesFiles) (goesOn : ∀ product, (second product).LeavesFiles) :
    (first >>= second).LeavesFiles := by
  intro desk
  rw [← (begins desk).1, ← (begins desk).2, run_bind]
  split
  · next product desk' did =>
    rw [did]
    exact goesOn product desk'
  · next did =>
    rw [did]
    exact ⟨rfl, rfl⟩

/-! ### Actions that store -/

/-- An action that fails in nothing but telling. -/
def OnlyFailsToTell (action : Action Product) : Prop :=
  ∀ desk cause, (action.run desk).1 = .error cause → ∃ fault, cause = .defect (.markup fault)

theorem onlyFailsToTell_bind {first : Action Product} {second : Product → Action Further}
    (begins : first.OnlyFailsToTell) (goesOn : ∀ product, (second product).OnlyFailsToTell) :
    (first >>= second).OnlyFailsToTell := by
  intro desk cause
  rw [run_bind]
  split
  · next product desk' _ => exact goesOn product desk' cause
  · next cause desk' did =>
    rintro ⟨⟩
    exact begins desk cause (congrArg Prod.fst did)

/-- An action that leaves certain files and ends in a certain way, or fails as said and leaves them
as they were. -/
def Stores (files : Except Failure FileTree) (Ends : Except Failure Product → Prop)
    (action : Action Product) (desk : Desk) : Prop :=
  (action.run desk).2.working = desk.working ∧
    match files with
    | .ok files => (action.run desk).2.files = files ∧ Ends (action.run desk).1
    | .error cause => (action.run desk).2.files = desk.files ∧ (action.run desk).1 = .error cause

variable {Ends : Except Failure Further → Prop}

theorem stores_ofExcept_bind {outcome : Except Failure Product}
    {second : Product → Action Further} {desk : Desk} {files : Product → Except Failure FileTree}
    (goesOn : ∀ product, (second product).Stores (files product) Ends desk) :
    (ofExcept outcome >>= second).Stores (outcome >>= files) Ends desk := by
  cases outcome with
  | error cause => exact ⟨rfl, rfl, rfl⟩
  | ok product => exact goesOn product

/-- What goes before without changing a file decides whether anything is stored. -/
theorem stores_bind {first : Action Product} {second : Product → Action Further} {desk : Desk}
    {files : Product → Except Failure FileTree} (begins : first.LeavesFiles)
    (goesOn : ∀ product desk', desk'.files = desk.files → desk'.working = desk.working →
      (second product).Stores (files product) Ends desk') :
    (first >>= second).Stores ((first.run desk).1 >>= files) Ends desk := by
  obtain ⟨kept, working⟩ := begins desk
  unfold Stores
  rw [run_bind]
  generalize first.run desk = did at kept working ⊢
  obtain ⟨outcome, desk'⟩ := did
  cases outcome with
  | error cause => exact ⟨working, kept, rfl⟩
  | ok product =>
    have further := goesOn product desk' kept working
    unfold Stores at further
    rw [kept, working] at further
    exact further

end Action

namespace Context

open ClientModel.Action

theorem leavesFiles_tell (context : Context) (message : Message) :
    (context.tell message).LeavesFiles :=
  (context.takesOnlyInput_tell message).leavesFiles

theorem leavesFiles_loadDocument (context : Context) (source : String) (headers : Headers)
    (timeout : Binary64) : (context.loadDocument source headers timeout).LeavesFiles :=
  (context.takesOnlyInput_loadDocument source headers timeout).leavesFiles

/-- Where the document is in a file, it does not matter in which environment it is loaded. -/
theorem run_loadDocument_of_file {source name : String}
    (file : Source.ofText source = .file name) (context : Context) (headers : Headers)
    (timeout : Binary64) (desk : Desk) :
    (context.loadDocument source headers timeout).run desk =
      (do
        let value ← Source.documentOfFile name (desk.files.read desk.working (Path.ofText name))
        (Extraction.documentOf value.entriesOrEmpty).mapError .ofExtraction, desk) := by
  rw [loadDocument, loadValue, file]
  dsimp only
  rw [run_bind, run_bind]
  dsimp only [Action.read, run]
  rw [run_ofExcept]
  generalize Source.documentOfFile name _ = found
  cases found with
  | error cause => rfl
  | ok value =>
    dsimp only
    rw [run_ofExcept]
    rfl

theorem leavesFiles_loadStored (context : Context) (named : Option Path) :
    (context.loadStored named).LeavesFiles :=
  (takesOnlyInput_bind (takesOnlyInput_read _) fun _ => takesOnlyInput_ofExcept _).leavesFiles

/-- Telling a message fails in nothing but its markup. -/
theorem onlyFailsToTell_tell (context : Context) (message : Message) :
    (context.tell message).OnlyFailsToTell := by
  have printed (text : String) : (printText .diagnostics text).OnlyFailsToTell := by
    intro desk cause failed
    obtain ⟨_, did, _⟩ := exists_run_printText .diagnostics text desk
    rw [did] at failed
    cases failed
  refine onlyFailsToTell_bind (fun desk cause failed => ?_) printed
  rw [run_ofExcept] at failed
  exact OutputSettings.exists_fault_of_messageText failed

/-- A configuration is stored in its place, or nothing is changed. -/
theorem run_store (context : Context) (named : Option Path) (project : Project) (desk : Desk) :
    let path := context.surroundings.configurationPath named
    (context.store named project).run desk =
      match desk.files.write desk.working path project.text.toUTF8 with
      | .ok files => (.ok path, { desk with files := files })
      | .error fault => (.error (.defect (.unwritableFile path.text fault)), desk) := by
  intro path
  rw [store, run_bind, run_write, Desk.write]
  cases desk.files.write desk.working path project.text.toUTF8 <;> rfl

/-- Storing a configuration stores, and what is done afterwards decides how that ends. -/
theorem stores_store_bind {context : Context} {named : Option Path} {project : Project}
    {next : Path → Action Further} {Ends : Except Failure Further → Prop}
    (leaves : ∀ path, (next path).LeavesFiles)
    (ends : ∀ path desk, Ends ((next path).run desk).1) (desk : Desk) :
    let path := context.surroundings.configurationPath named
    (context.store named project >>= next).Stores
      ((desk.files.write desk.working path project.text.toUTF8).mapError
        fun fault => .defect (.unwritableFile path.text fault)) Ends desk := by
  intro path
  unfold Stores
  rw [run_bind, run_store]
  cases desk.files.write desk.working path project.text.toUTF8 with
  | error fault => exact ⟨rfl, rfl, rfl⟩
  | ok files =>
    have kept := leaves path { desk with files := files }
    exact ⟨kept.2, kept.1, ends path _⟩

end Context

end ClientModel
