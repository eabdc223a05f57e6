/-
This file describes the words that identifiers are made of: a character of a first class, then
characters of a further class. Where a word is looked for, one line break may stand behind it.
-/

import ClientModel.Naming.Identifier
import Mathlib.Data.List.Basic

namespace ClientModel.Naming

/-- A word of a class of first characters and a class of further ones, with nothing behind it. -/
def IsWord (first further : Char → Bool) (characters : List Char) : Prop :=
  ∃ character rest, characters = character :: rest ∧ first character = true ∧
    rest.all further = true

/-- A name that generated code can use without quotes or escapes. -/
def IsIdentifier (name : String) : Prop := IsWord isBareStart isBareFurther name.toList

/-- A letter, then letters and digits. -/
def IsPlainWord (name : String) : Prop := IsWord isLetter isAlphanumeric name.toList

section

variable {first further : Char → Bool}

theorem isWord_cons_iff (character : Char) (rest : List Char) :
    IsWord first further (character :: rest) ↔
      first character = true ∧ ∀ other ∈ rest, further other = true := by
  simp only [IsWord, List.cons.injEq, ← List.all_eq_true]
  constructor
  · rintro ⟨_, _, ⟨rfl, rfl⟩, starts, goesOn⟩
    exact ⟨starts, goesOn⟩
  · rintro ⟨starts, goesOn⟩
    exact ⟨_, _, ⟨rfl, rfl⟩, starts, goesOn⟩

theorem not_isWord_nil : ¬ IsWord first further [] := by
  rintro ⟨_, _, same, _⟩
  cases same

instance (characters : List Char) : Decidable (IsWord first further characters) :=
  match characters with
  | [] => .isFalse not_isWord_nil
  | character :: rest => decidable_of_iff ((first character && rest.all further) = true) (by
      rw [isWord_cons_iff, Bool.and_eq_true, List.all_eq_true])

instance (name : String) : Decidable (IsIdentifier name) :=
  inferInstanceAs (Decidable (IsWord _ _ _))

instance (name : String) : Decidable (IsPlainWord name) :=
  inferInstanceAs (Decidable (IsWord _ _ _))

/-- A word has no characters but those of its two classes. -/
theorem IsWord.not_mem {characters : List Char} (word : IsWord first further characters)
    {character : Char} (notFirst : first character = false)
    (notFurther : further character = false) :
    character ∉ characters := by
  obtain ⟨start, rest, rfl, starts, goesOn⟩ := word
  intro member
  rcases List.mem_cons.1 member with rfl | inside
  · rw [notFirst] at starts
    cases starts
  · have allowed := List.all_eq_true.1 goesOn character inside
    rw [notFurther] at allowed
    cases allowed

/-- Where a word is looked for, a line break may stand behind it. -/
theorem isWord_or_of_isWordOf {characters : List Char}
    (found : isWordOf first further characters = true) :
    IsWord first further characters ∨
      ∃ word, IsWord first further word ∧ characters = word ++ ['\n'] := by
  have reads {word : List Char} (found : (match word with
      | [] => false
      | character :: rest => first character && rest.all further) = true) :
      IsWord first further word := by
    cases word with
    | nil => cases found
    | cons character rest =>
      obtain ⟨starts, goesOn⟩ := (Bool.and_eq_true _ _).mp found
      exact ⟨character, rest, rfl, starts, goesOn⟩
  unfold isWordOf at found
  split at found
  · next last =>
    refine Or.inr ⟨characters.dropLast, reads found, ?_⟩
    have final : '\n' ∈ characters.getLast? := beq_iff_eq.1 last
    exact (List.dropLast_append_getLast? _ final).symm
  · exact Or.inl (reads found)

/-- A word without a line break is found where a word is looked for. -/
theorem isWordOf_of_isWord {characters : List Char} (word : IsWord first further characters)
    (inLine : '\n' ∉ characters) : isWordOf first further characters = true := by
  obtain ⟨character, rest, rfl, starts, goesOn⟩ := word
  have last : ((character :: rest).getLast? == some '\n') = false := by
    rw [beq_eq_false_iff_ne]
    exact fun same => inLine (List.mem_of_getLast? same)
  simp [isWordOf, last, starts, goesOn]

end

end ClientModel.Naming
