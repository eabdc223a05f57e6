/-
This file says which desks a run cannot tell apart. What was printed for diagnostics and which
requests were sent is never read back, so a run does the same on two desks that differ in these
alone. It names the actions that leave such a desk but for the input, which they may take: loading a
document is one, and so is whatever is told.
-/

import ClientModel.Proofs.Requests

namespace ClientModel

variable {Product Further : Type}

/-! ### Desks that are alike -/

/-- Two desks on which the same happens: they may differ in what was printed for diagnostics and
in the requests that were sent. -/
structure Desk.IsLike (desk other : Desk) : Prop where
  working : desk.working = other.working
  files : desk.files = other.files
  input : desk.input = other.input
  network : desk.network = other.network
  output : desk.output = other.output

namespace Desk.IsLike

theorem refl (desk : Desk) : desk.IsLike desk := ⟨rfl, rfl, rfl, rfl, rfl⟩

theorem trans {desk other third : Desk} (like : desk.IsLike other) (further : other.IsLike third) :
    desk.IsLike third where
  working := like.working.trans further.working
  files := like.files.trans further.files
  input := like.input.trans further.input
  network := like.network.trans further.network
  output := like.output.trans further.output

/-- What is printed for diagnostics makes no difference. -/
theorem print_diagnostics (text : String) (desk : Desk) :
    (desk.print .diagnostics text).IsLike desk := ⟨rfl, rfl, rfl, rfl, rfl⟩

theorem print {desk other : Desk} (like : desk.IsLike other) (target : PrintTarget)
    (text : String) : (desk.print target text).IsLike (other.print target text) := by
  cases target with
  | output => exact { like with output := congrArg (· ++ text) like.output }
  | diagnostics => exact { like with }

theorem write {desk other : Desk} (like : desk.IsLike other) (path : Path) (content : String) :
    (desk.write path content).1 = (other.write path content).1 ∧
      (desk.write path content).2.IsLike (other.write path content).2 := by
  rw [Desk.write, Desk.write, like.files, like.working]
  cases other.files.write other.working path content.toUTF8 with
  | ok files => exact ⟨rfl, rfl, rfl, like.input, like.network, like.output⟩
  | error fault => exact ⟨rfl, like⟩

theorem takeInput {desk other : Desk} (like : desk.IsLike other) :
    desk.takeInput.1 = other.takeInput.1 ∧ desk.takeInput.2.IsLike other.takeInput.2 :=
  ⟨like.input, { like with input := rfl }⟩

theorem send {desk other : Desk} (like : desk.IsLike other) (request : Request) :
    (desk.send request).1 = (other.send request).1 ∧
      (desk.send request).2.IsLike (other.send request).2 :=
  ⟨congrFun like.network request, { like with }⟩

end Desk.IsLike

namespace Action

/-- An action that leaves every desk as it was, but for the input. -/
def TakesOnlyInput (action : Action Product) : Prop :=
  ∀ desk, (action.run desk).2.IsLike { desk with input := (action.run desk).2.input }

theorem takesOnlyInput_of_isLike {action : Action Product}
    (like : ∀ desk, (action.run desk).2.IsLike desk) : action.TakesOnlyInput :=
  fun desk => { like desk with input := rfl }

theorem takesOnlyInput_ofExcept (outcome : Except Failure Product) :
    (ofExcept outcome).TakesOnlyInput :=
  takesOnlyInput_of_isLike fun desk => by
    rw [run_ofExcept]
    exact .refl desk

theorem takesOnlyInput_read (path : Path) : (read path).TakesOnlyInput :=
  takesOnlyInput_of_isLike fun desk => .refl desk

theorem takesOnlyInput_send (request : Request) : (send request).TakesOnlyInput :=
  takesOnlyInput_of_isLike fun _ => ⟨rfl, rfl, rfl, rfl, rfl⟩

theorem takesOnlyInput_input : input.TakesOnlyInput := by
  intro desk
  have taken : (input.run desk).2 = { desk with input := .ok "" } := by
    show ((ofExcept _).run _).2 = _
    rw [run_ofExcept]
  rw [taken]
  exact .refl _

/-- Printing for diagnostics always goes on, on a desk that is like the one before. -/
theorem exists_run_diagnostics (text : String) (desk : Desk) :
    ∃ told, (printText .diagnostics text).run desk = (.ok (), told) ∧ told.IsLike desk := by
  unfold printText
  split
  · exact ⟨desk, rfl, .refl desk⟩
  · exact ⟨_, rfl, .print_diagnostics text desk⟩

theorem takesOnlyInput_diagnostics (text : String) :
    (printText .diagnostics text).TakesOnlyInput :=
  takesOnlyInput_of_isLike fun desk => by
    obtain ⟨told, printed, like⟩ := exists_run_diagnostics text desk
    rwa [printed]

theorem takesOnlyInput_bind {first : Action Product} {second : Product → Action Further}
    (begins : first.TakesOnlyInput) (goesOn : ∀ product, (second product).TakesOnlyInput) :
    (first >>= second).TakesOnlyInput := by
  intro desk
  have before := begins desk
  rw [run_bind]
  split
  · next product middle did =>
    rw [did] at before
    have after := goesOn product middle
    exact { working := after.working.trans before.working
            files := after.files.trans before.files
            input := rfl
            network := after.network.trans before.network
            output := after.output.trans before.output }
  · next cause middle did =>
    rwa [did] at before

end Action

/-! ### Telling -/

/-- A message has a text unless its markup is wrong. -/
theorem OutputSettings.exists_fault_of_messageText {settings : OutputSettings} {message : Message}
    {cause : Failure} (failed : settings.messageText message = .error cause) :
    ∃ fault, cause = .defect (.markup fault) := by
  unfold messageText at failed
  split at failed
  · cases failed
  · split at failed
    · cases failed
    · split at failed
      · cases failed
      · next fault _ =>
        cases failed
        exact ⟨fault, rfl⟩

namespace Context

open ClientModel.Action

theorem takesOnlyInput_tell (context : Context) (message : Message) :
    (context.tell message).TakesOnlyInput :=
  takesOnlyInput_bind (takesOnlyInput_ofExcept _) fun _ => takesOnlyInput_diagnostics _

/-- Whether a message can be told, which its markup decides. -/
def tells (context : Context) (message : Message) : Bool :=
  (context.settings.messageText message).isOk

/-- Notes are always left, and change nothing that matters. -/
theorem exists_run_noteAll (context : Context) (notices : List Notice) (desk : Desk) :
    ∃ noted, (context.noteAll notices).run desk = (.ok (), noted) ∧ noted.IsLike desk := by
  induction notices generalizing desk with
  | nil => exact ⟨desk, rfl, .refl desk⟩
  | cons notice rest inductionHypothesis =>
    obtain ⟨middle, first, like⟩ :=
      exists_run_diagnostics (context.settings.noticeText notice) desk
    obtain ⟨noted, others, further⟩ := inductionHypothesis middle
    refine ⟨noted, ?_, further.trans like⟩
    rw [noteAll, run_bind, note, first]
    exact others

/-! ### Loading -/

/-- Loading a document takes the input at most. -/
theorem takesOnlyInput_loadDocument (context : Context) (source : String) (headers : Headers)
    (timeout : Binary64) : (context.loadDocument source headers timeout).TakesOnlyInput := by
  refine takesOnlyInput_bind ?_ fun _ => takesOnlyInput_ofExcept _
  unfold loadValue
  cases Source.ofText source with
  | input => exact takesOnlyInput_bind takesOnlyInput_input fun _ => takesOnlyInput_ofExcept _
  | url url =>
    exact takesOnlyInput_bind (takesOnlyInput_diagnostics _) fun _ =>
      takesOnlyInput_bind (takesOnlyInput_send _) fun _ => takesOnlyInput_ofExcept _
  | file name =>
    exact takesOnlyInput_bind (takesOnlyInput_read _) fun _ => takesOnlyInput_ofExcept _

end Context

end ClientModel
