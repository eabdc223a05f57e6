/-
This file says when filling a text a second time changes nothing. What a first filling puts in is
part of the text that a second one reads, so a placeholder in the value of a variable, or one that
only arises where pieces meet, is filled by the second. The main statement is that this cannot
happen where every dollar sign in the filled text belongs to a placeholder that stayed.
-/

import ClientModel.Configuration.Placeholder
import ClientModel.Text.Split
import Mathlib.Data.List.TakeWhile

namespace ClientModel

/-! ### Placeholders as they are written -/

namespace Placeholder

/-- A placeholder whose written form is read as that placeholder again. -/
structure IsReadable (placeholder : Placeholder) : Prop where
  named : placeholder.name ≠ []
  name : ∀ character ∈ placeholder.name, isNameCharacter character = true
  fallback : ∀ fallback, placeholder.fallback = some fallback → '}' ∉ fallback

theorem inside?_name {name : List Char} (readable : (⟨name, none⟩ : Placeholder).IsReadable)
    (rest : List Char) : inside? (name ++ '}' :: rest) = some ⟨name, none⟩ := by
  have named : name.isEmpty = false := by simpa using readable.named
  rw [inside?, Text.takeWhile_append_stop readable.name (by decide),
    Text.dropWhile_append_stop readable.name (by decide)]
  simp [named]

theorem inside?_default {name fallback : List Char}
    (readable : (⟨name, some fallback⟩ : Placeholder).IsReadable) (rest : List Char) :
    inside? (name ++ ':' :: (fallback ++ '}' :: rest)) = some ⟨name, some fallback⟩ := by
  have named : name.isEmpty = false := by simpa using readable.named
  have free : ∀ character ∈ fallback, (character != '}') = true := fun character member =>
    bne_iff_ne.2 (ne_of_mem_of_not_mem member (readable.fallback fallback rfl))
  rw [inside?, Text.takeWhile_append_stop readable.name (by decide),
    Text.dropWhile_append_stop readable.name (by decide)]
  simp [named, Text.takeWhile_append_stop free]

/-- A readable placeholder is read where it is written. -/
theorem at?_written_append {placeholder : Placeholder} (readable : placeholder.IsReadable)
    (rest : List Char) : at? (placeholder.written ++ rest) = some placeholder := by
  obtain ⟨name, fallback⟩ := placeholder
  cases fallback with
  | none => simpa [written, at?_open] using inside?_name readable rest
  | some fallback => simpa [written, at?_open] using inside?_default readable rest

/-- Only readable placeholders are read. -/
theorem isReadable_of_inside? {text : List Char} {placeholder : Placeholder}
    (found : inside? text = some placeholder) : placeholder.IsReadable := by
  have name : ∀ character ∈ text.takeWhile isNameCharacter, isNameCharacter character = true :=
    fun _ => List.mem_takeWhile_imp
  obtain ⟨named, ⟨_, _, rfl⟩ | ⟨rest, _, _, rfl⟩⟩ := cases_of_inside? found
  · exact ⟨named, name, fun _ none => nomatch none⟩
  · refine ⟨named, name, fun fallback same => ?_⟩
    cases same
    exact fun brace => by simpa using List.mem_takeWhile_imp brace

theorem isReadable_of_at? {text : List Char} {placeholder : Placeholder}
    (found : at? text = some placeholder) : placeholder.IsReadable := by
  obtain ⟨_, _, inside⟩ := exists_of_at? found
  exact isReadable_of_inside? inside

/-- A placeholder starts with a dollar sign. -/
theorem at?_cons_of_ne {character : Char} (different : character ≠ '$') (rest : List Char) :
    at? (character :: rest) = none :=
  Option.eq_none_iff_forall_ne_some.2 fun _ found => by
    obtain ⟨_, same, _⟩ := exists_of_at? found
    exact different (List.cons.inj same).1

end Placeholder

/-! ### Cutting texts -/

theorem piecesFrom_eq_drop (skip : Nat) (text : List Char) :
    piecesFrom skip text = piecesFrom 0 (text.drop skip) := by
  induction text generalizing skip with
  | nil => rw [List.drop_nil, piecesFrom_nil, piecesFrom_nil]
  | cons character rest inductionHypothesis =>
    cases skip with
    | zero => rfl
    | succ skip => exact inductionHypothesis skip

/-- A readable placeholder is cut off the text that it starts. -/
theorem piecesFrom_written_append {placeholder : Placeholder} (readable : placeholder.IsReadable)
    (rest : List Char) :
    piecesFrom 0 (placeholder.written ++ rest) = .placeholder placeholder :: piecesFrom 0 rest := by
  have found := Placeholder.at?_written_append readable rest
  cases written : placeholder.written with
  | nil =>
    unfold Placeholder.written at written
    split at written <;> cases written
  | cons first inner =>
    rw [written] at found
    rw [List.cons_append] at found ⊢
    rw [piecesFrom_of_some found, written, List.length_cons, Nat.add_sub_cancel,
      piecesFrom_eq_drop, List.drop_left]

/-- Text without a dollar sign is cut into its characters. -/
theorem piecesFrom_append_of_notMem {front : List Char} (free : '$' ∉ front) (back : List Char) :
    piecesFrom 0 (front ++ back) = front.map .character ++ piecesFrom 0 back := by
  induction front with
  | nil => rfl
  | cons character rest inductionHypothesis =>
    rw [List.mem_cons, not_or] at free
    rw [List.cons_append, piecesFrom_of_none (Placeholder.at?_cons_of_ne (Ne.symm free.1) _),
      inductionHypothesis free.2, List.map_cons, List.cons_append]

/-- The placeholders among the pieces of a text are readable. -/
theorem isReadable_of_mem_piecesFrom {skip : Nat} {text : List Char} {placeholder : Placeholder}
    (member : .placeholder placeholder ∈ piecesFrom skip text) : placeholder.IsReadable := by
  induction text generalizing skip with
  | nil => exact absurd (piecesFrom_nil skip ▸ member) List.not_mem_nil
  | cons character rest inductionHypothesis =>
    cases skip with
    | succ skip => exact inductionHypothesis member
    | zero =>
      cases found : Placeholder.at? (character :: rest) with
      | some first =>
        rw [piecesFrom_of_some found] at member
        rcases List.mem_cons.1 member with same | later
        · cases same
          exact Placeholder.isReadable_of_at? found
        · exact inductionHypothesis later
      | none =>
        rw [piecesFrom_of_none found] at member
        rcases List.mem_cons.1 member with same | later
        · cases same
        · exact inductionHypothesis later

/-! ### Filling twice -/

/-- What stands for the piece has no dollar sign, or is the piece itself, a placeholder that stays
as it is written. -/
def Piece.Settles (environment : Environment) (piece : Piece) : Prop :=
  '$' ∉ piece.value environment ∨
    ∃ placeholder, piece = .placeholder placeholder ∧
      placeholder.value environment = placeholder.written

/-- Characters stand for themselves. -/
theorem flatMap_value_characters (environment : Environment) (characters : List Char) :
    (characters.map Piece.character).flatMap (Piece.value environment) = characters := by
  simp [List.flatMap_map, Piece.value]

/-- Filling pieces that settle, and then what they make together, is filling them once. -/
theorem flatMap_value_piecesFrom {environment : Environment} {cut : List Piece}
    (readable : ∀ placeholder, .placeholder placeholder ∈ cut → placeholder.IsReadable)
    (settled : ∀ piece ∈ cut, piece.Settles environment) :
    (piecesFrom 0 (cut.flatMap (Piece.value environment))).flatMap (Piece.value environment) =
      cut.flatMap (Piece.value environment) := by
  induction cut with
  | nil => rfl
  | cons piece rest inductionHypothesis =>
    have further := inductionHypothesis (fun _ later => readable _ (List.mem_cons_of_mem _ later))
      fun _ later => settled _ (List.mem_cons_of_mem _ later)
    rw [List.flatMap_cons]
    rcases settled piece List.mem_cons_self with free | ⟨placeholder, rfl, kept⟩
    · rw [piecesFrom_append_of_notMem free, List.flatMap_append, further,
        flatMap_value_characters]
    · have value : Piece.value environment (.placeholder placeholder) = placeholder.written := kept
      rw [value, piecesFrom_written_append (readable placeholder List.mem_cons_self),
        List.flatMap_cons, further, value]

/-- Where every piece of a text settles, filling the filled text changes nothing. -/
theorem fillPlaceholders_fillPlaceholders {environment : Environment} {text : String}
    (settled : ∀ piece ∈ pieces text, piece.Settles environment) :
    fillPlaceholders environment (fillPlaceholders environment text) =
      fillPlaceholders environment text := by
  have readable : ∀ placeholder, .placeholder placeholder ∈ pieces text →
      placeholder.IsReadable := fun _ => isReadable_of_mem_piecesFrom
  have again := flatMap_value_piecesFrom readable settled
  simp only [fillPlaceholders, pieces, String.toList_ofList]
  exact congrArg String.ofList again

end ClientModel
