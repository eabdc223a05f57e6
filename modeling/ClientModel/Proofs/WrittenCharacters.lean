/-
This file says which characters stand in JSON text. The main statement is that a control character
in it comes from the style of writing and never from the value: between quotes every control
character is escaped, and nothing else that is written has one.
-/

import ClientModel.Json.Writer
import ClientModel.Proofs.Numerals

namespace ClientModel

/-- Whether a text has no control character. -/
def Text.isControlFree (text : String) : Bool :=
  text.toList.all fun character => 0x20 ≤ character.toNat

theorem Text.le_toNat_of_isControlFree (text : String) (free : isControlFree text = true)
    {character : Char} (member : character ∈ text.toList) : 0x20 ≤ character.toNat :=
  of_decide_eq_true (List.all_eq_true.1 free character member)

namespace Json

/-! ### Scalars -/

theorem le_toNat_of_mem_hexDigits {width value : Nat} {digit : Char}
    (member : digit ∈ Text.hexDigits width value) : 0x20 ≤ digit.toNat := by
  induction width generalizing value with
  | zero => cases member
  | succ width inductionHypothesis =>
    have each : ∀ value < 16, 0x20 ≤ (Text.hexDigit value).toNat := by decide
    rcases List.mem_append.1 member with front | last
    · exact inductionHypothesis front
    · rw [List.mem_singleton.1 last]
      exact each _ (Nat.mod_lt _ (by decide))

theorem le_toNat_of_mem_escapedUnit {unit : Nat} {character : Char}
    (member : character ∈ escapedUnit unit) : 0x20 ≤ character.toNat := by
  simp only [escapedUnit, List.mem_cons] at member
  rcases member with rfl | rfl | digit
  · decide
  · decide
  · exact le_toNat_of_mem_hexDigits digit

theorem le_toNat_of_mem_escapedCode {code : Nat} {character : Char}
    (member : character ∈ escapedCode code) : 0x20 ≤ character.toNat := by
  unfold escapedCode at member
  split at member
  · exact le_toNat_of_mem_escapedUnit member
  · exact (List.mem_append.1 member).elim le_toNat_of_mem_escapedUnit le_toNat_of_mem_escapedUnit

/-- Neither an escape nor a character that needs none is a control character. -/
theorem le_toNat_of_mem_writtenCharacter {asciiOnly : Bool} {character other : Char}
    (member : other ∈ writtenCharacter asciiOnly character) : 0x20 ≤ other.toNat := by
  unfold writtenCharacter at member
  -- The seven short escapes.
  iterate 7
    split at member
    · simp only [List.mem_cons, List.not_mem_nil, or_false] at member
      rcases member with rfl | rfl <;> decide
  split at member
  · exact le_toNat_of_mem_escapedCode member
  · next large =>
    split at member
    · exact le_toNat_of_mem_escapedCode member
    · rw [List.mem_singleton.1 member]
      exact Nat.le_of_not_lt large

theorem le_toNat_of_mem_writtenText {asciiOnly : Bool} {characters : List Char} {character : Char}
    (member : character ∈ writtenText asciiOnly characters) : 0x20 ≤ character.toNat := by
  simp only [writtenText, List.cons_append, List.mem_cons, List.mem_append, List.mem_flatMap,
    List.not_mem_nil, or_false] at member
  rcases member with rfl | ⟨_, _, inside⟩ | rfl
  · decide
  · exact le_toNat_of_mem_writtenCharacter inside
  · decide

theorem le_toNat_of_isNumeralCharacter {character : Char}
    (numeral : Binary64.isNumeralCharacter character = true) : 0x20 ≤ character.toNat := by
  rw [Binary64.isNumeralCharacter, Bool.or_eq_true, List.contains_iff_mem] at numeral
  rcases numeral with digit | sign
  · exact Nat.le_trans (by decide) ((Char.isDigit_iff_toNat).1 digit).1
  · simp only [List.mem_cons, List.not_mem_nil, or_false] at sign
    rcases sign with rfl | rfl | rfl | rfl <;> decide

theorem le_toNat_of_mem_writtenScalar {asciiOnly : Bool} {content : Scalar} {character : Char}
    (member : character ∈ writtenScalar asciiOnly content) : 0x20 ≤ character.toNat := by
  cases content with
  | null => exact Text.le_toNat_of_isControlFree "null" rfl member
  | bool value =>
    cases value
    · exact Text.le_toNat_of_isControlFree "false" rfl member
    · exact Text.le_toNat_of_isControlFree "true" rfl member
  | int value =>
    exact le_toNat_of_isNumeralCharacter (Binary64.isNumeralCharacter_of_mem_toString member)
  | float value =>
    cases value with
    | notANumber => exact Text.le_toNat_of_isControlFree "NaN" rfl member
    | infinite negative =>
      cases negative
      · exact Text.le_toNat_of_isControlFree "Infinity" rfl member
      · exact Text.le_toNat_of_isControlFree "-Infinity" rfl member
    | finite negative significand exponent =>
      exact le_toNat_of_isNumeralCharacter (Binary64.isNumeralCharacter_of_mem_write member)
  | string _ | date _ | timestamp _ | binary _ => exact le_toNat_of_mem_writtenText member

theorem le_toNat_of_mem_writtenKey {asciiOnly : Bool} {key : Scalar} {character : Char}
    (member : character ∈ writtenKey asciiOnly key) : 0x20 ≤ character.toNat := by
  cases key <;> exact le_toNat_of_mem_writtenText member

/-! ### Values -/

/-- A character that may stand in a text of this style: any but a control character, and what the
style itself puts between the parts. -/
def Style.Puts (style : Style) (character : Char) : Prop :=
  0x20 ≤ character.toNat ∨ character ∈ style.itemSeparator.toList ∨
    character ∈ style.keySeparator.toList ∨ ∃ level, character ∈ style.lineStart level

/-- What stands between brackets is of the style where its parts are. -/
theorem puts_of_mem_bracketed {style : Style} {level : Nat} {opening closing : Char}
    (marks : 0x20 ≤ opening.toNat ∧ 0x20 ≤ closing.toNat) {parts : List (List Char)}
    (each : ∀ part ∈ parts, ∀ character ∈ part, style.Puts character) :
    ∀ character ∈ style.bracketed level opening closing parts, style.Puts character := by
  intro character member
  unfold Style.bracketed at member
  split at member
  · simp only [List.mem_cons, List.not_mem_nil, or_false] at member
    rcases member with rfl | rfl
    · exact .inl marks.1
    · exact .inl marks.2
  · next first rest =>
    have start {level : Nat} (member : character ∈ style.lineStart level) : style.Puts character :=
      .inr (.inr (.inr ⟨level, member⟩))
    simp only [List.cons_append, List.mem_cons, List.mem_append, List.mem_flatMap,
      List.not_mem_nil, or_false] at member
    rcases member with rfl |
      (((before | inside) | ⟨part, among, (separator | before) | inside⟩) | before) | rfl
    · exact .inl marks.1
    · exact start before
    · exact each first List.mem_cons_self character inside
    · exact .inr (.inl separator)
    · exact start before
    · exact each part (List.mem_cons_of_mem _ among) character inside
    · exact start before
    · exact .inl marks.2

mutual

/-- A control character in the text of a value comes from the style. -/
theorem puts_of_mem_written (style : Style) (level : Nat) (value : Value) :
    ∀ character ∈ written style level value, style.Puts character := by
  match value with
  | .scalar content => exact fun _ member => .inl (le_toNat_of_mem_writtenScalar member)
  | .list items =>
    exact puts_of_mem_bracketed (by decide) (puts_of_mem_writtenItems style (level + 1) items)
  | .map entries =>
    exact puts_of_mem_bracketed (by decide) (puts_of_mem_writtenEntries style (level + 1) entries)
  | .set members =>
    exact puts_of_mem_bracketed (by decide) (List.forall_mem_map.2 fun _ _ _ member =>
      .inl (le_toNat_of_mem_writtenScalar member))
  | .pair first second =>
    exact puts_of_mem_bracketed (by decide) (List.forall_mem_cons.2
      ⟨puts_of_mem_written style (level + 1) first,
        List.forall_mem_singleton.2 (puts_of_mem_written style (level + 1) second)⟩)
  | .knot _ body => exact puts_of_mem_written style level body
  | .again _ _ =>
    exact fun _ member => .inl (Text.le_toNat_of_isControlFree "null" rfl member)

theorem puts_of_mem_writtenItems (style : Style) (level : Nat) (items : List Value) :
    ∀ part ∈ writtenItems style level items, ∀ character ∈ part, style.Puts character := by
  match items with
  | [] => exact fun _ member => absurd member List.not_mem_nil
  | item :: rest =>
    exact List.forall_mem_cons.2
      ⟨puts_of_mem_written style level item, puts_of_mem_writtenItems style level rest⟩

theorem puts_of_mem_writtenEntries (style : Style) (level : Nat) (entries : List (Scalar × Value)) :
    ∀ part ∈ writtenEntries style level entries, ∀ character ∈ part, style.Puts character := by
  match entries with
  | [] => exact fun _ member => absurd member List.not_mem_nil
  | (key, item) :: rest =>
    refine List.forall_mem_cons.2 ⟨fun character member => ?_,
      puts_of_mem_writtenEntries style level rest⟩
    rcases List.mem_append.1 member with front | inside
    · rcases List.mem_append.1 front with name | separator
      · exact .inl (le_toNat_of_mem_writtenKey name)
      · exact .inr (.inr (.inl separator))
    · exact puts_of_mem_written style level item character inside

end

/-- Configuration text breaks lines with line feeds alone. -/
theorem ne_carriageReturn_of_mem_written {value : Value} {level : Nat} {character : Char}
    (member : character ∈ written configurationStyle level value) : character ≠ '\r' := by
  rintro rfl
  rcases puts_of_mem_written configurationStyle level value _ member with
    large | separator | separator | ⟨depth, start⟩
  · exact absurd large (by decide)
  · exact absurd separator (by decide)
  · exact absurd separator (by decide)
  · rcases List.mem_cons.1 start with feed | blank
    · exact absurd feed (by decide)
    · exact absurd (List.eq_of_mem_replicate blank) (by decide)

/-- The text of a literal has no control character. -/
theorem le_toNat_of_mem_write_literalStyle {value : Value} {character : Char}
    (member : character ∈ (write literalStyle value).toList) : 0x20 ≤ character.toNat := by
  have separators : Text.isControlFree literalStyle.itemSeparator = true ∧
      Text.isControlFree literalStyle.keySeparator = true := ⟨rfl, rfl⟩
  rw [write, String.toList_ofList] at member
  rcases puts_of_mem_written literalStyle 0 value character member with
    large | separator | separator | ⟨_, start⟩
  · exact large
  · exact Text.le_toNat_of_isControlFree _ separators.1 separator
  · exact Text.le_toNat_of_isControlFree _ separators.2 separator
  · cases start

end Json

end ClientModel
