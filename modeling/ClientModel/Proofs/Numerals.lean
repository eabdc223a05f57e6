/-
This file says in which characters numbers are written. The main statement is that a finite double
is written in the characters of a numeral, whatever its digits and its layout are.
-/

import ClientModel.Value.Display
import Mathlib.Data.List.Basic

namespace ClientModel

namespace Binary64

/-- A character of a numeral. -/
def isNumeralCharacter (character : Char) : Bool :=
  character.isDigit || ['.', 'e', '+', '-'].contains character

theorem isNumeralCharacter_of_mem_toDigits {number : Nat} {character : Char}
    (member : character ∈ Nat.toDigits 10 number) : isNumeralCharacter character = true := by
  rw [isNumeralCharacter, Nat.isDigit_of_mem_toDigits (by decide) (by decide) member, Bool.true_or]

/-- An integer is written in characters of a numeral. -/
theorem isNumeralCharacter_of_mem_toString {number : Int} {character : Char}
    (member : character ∈ (toString number).toList) : isNumeralCharacter character = true := by
  have digits {natural : Nat} (member : character ∈ natural.repr.toList) :
      isNumeralCharacter character = true := by
    rw [Nat.toList_repr] at member
    exact isNumeralCharacter_of_mem_toDigits member
  rw [show toString number = number.repr from rfl, Int.repr_eq_if] at member
  split at member
  · exact digits member
  · rcases List.mem_append.1 (String.toList_append ▸ member) with sign | further
    · rw [List.mem_singleton.1 sign]
      rfl
    · exact digits further

theorem isNumeralCharacter_of_mem_zeros {count : Nat} {character : Char}
    (member : character ∈ zeros count) : isNumeralCharacter character = true := by
  rw [List.eq_of_mem_replicate member]
  rfl

theorem isNumeralCharacter_of_mem_text {decimal : Decimal} {character : Char}
    (member : character ∈ decimal.text) : isNumeralCharacter character = true := by
  rcases List.mem_append.1 member with front | written
  · exact isNumeralCharacter_of_mem_zeros front
  · exact isNumeralCharacter_of_mem_toDigits written

theorem isNumeralCharacter_of_mem_exponentText {exponent : Int} {character : Char}
    (member : character ∈ exponentText exponent) : isNumeralCharacter character = true := by
  simp only [exponentText, List.mem_cons, List.mem_append] at member
  rcases member with rfl | rfl | front | written
  · rfl
  · split <;> rfl
  · split at front
    · rw [List.mem_singleton.1 front]
      rfl
    · cases front
  · exact isNumeralCharacter_of_mem_toDigits written

theorem isNumeralCharacter_of_mem_positional {layout : Layout} {decimal : Decimal}
    {character : Char} (member : character ∈ decimal.positional layout) :
    isNumeralCharacter character = true := by
  have digits := fun text : character ∈ decimal.text => isNumeralCharacter_of_mem_text text
  unfold Decimal.positional at member
  dsimp only at member
  split at member
  · simp only [List.cons_append, List.mem_cons, List.mem_append] at member
    rcases member with rfl | rfl | front | text
    · rfl
    · rfl
    · exact isNumeralCharacter_of_mem_zeros front
    · exact digits text
  · split at member
    · simp only [List.mem_append] at member
      rcases member with (text | back) | point
      · exact digits text
      · exact isNumeralCharacter_of_mem_zeros back
      · split at point
        · simp only [List.mem_cons, List.not_mem_nil, or_false] at point
          rcases point with rfl | rfl <;> rfl
        · cases point
    · simp only [List.mem_append, List.mem_cons] at member
      rcases member with front | rfl | back
      · exact digits (List.mem_of_mem_take front)
      · rfl
      · exact digits (List.mem_of_mem_drop back)

theorem isNumeralCharacter_of_mem_exponential {decimal : Decimal} {character : Char}
    (member : character ∈ decimal.exponential) : isNumeralCharacter character = true := by
  have digits := fun text : character ∈ decimal.text => isNumeralCharacter_of_mem_text text
  unfold Decimal.exponential at member
  split at member
  · cases member
  · next digit here =>
    rw [here] at digits
    rcases List.mem_cons.1 member with rfl | exponent
    · exact digits List.mem_cons_self
    · exact isNumeralCharacter_of_mem_exponentText exponent
  · next digit rest _ here =>
    rw [here] at digits
    simp only [List.cons_append, List.mem_cons, List.mem_append] at member
    rcases member with rfl | rfl | text | exponent
    · exact digits List.mem_cons_self
    · rfl
    · exact digits (List.mem_cons_of_mem _ text)
    · exact isNumeralCharacter_of_mem_exponentText exponent

/-- A finite number is written in characters of a numeral. -/
theorem isNumeralCharacter_of_mem_write {layout : Layout} {digits : Nat → Int → Decimal}
    {negative : Bool} {significand : Nat} {exponent : Int} {character : Char}
    (member : character ∈
      (write layout digits (.finite negative significand exponent)).toList) :
    isNumeralCharacter character = true := by
  have sign {text : List Char} (each : character ∈ text → isNumeralCharacter character = true)
      (member : character ∈ signed negative text) : isNumeralCharacter character = true := by
    unfold signed at member
    split at member
    · rcases List.mem_cons.1 member with rfl | further
      · rfl
      · exact each further
    · exact each member
  unfold write at member
  dsimp only at member
  split at member
  · rw [String.toList_ofList] at member
    refine sign (fun zero => ?_) member
    split at zero
    · simp only [List.mem_cons, List.not_mem_nil, or_false] at zero
      rcases zero with rfl | rfl | rfl <;> rfl
    · rw [List.mem_singleton.1 zero]
      rfl
  · rw [String.toList_ofList] at member
    refine sign (fun text => ?_) member
    unfold Decimal.write at text
    dsimp only at text
    split at text
    · exact isNumeralCharacter_of_mem_positional text
    · exact isNumeralCharacter_of_mem_exponential text

end Binary64

end ClientModel
