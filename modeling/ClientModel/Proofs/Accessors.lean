/-
This file says what the accessor of a property is. The key gives a name, which is what is left of it
without blanks and quotes around it. The accessor is that name if it is an identifier, and the name
between apostrophes if not; but an identifier with a line break behind it is taken for one too. The
main statement is that the accessor of an accessor is the accessor itself but in this case, and that
keys that are names already have different accessors.
-/

import ClientModel.Proofs.Identifiers
import Mathlib.Data.Set.Function

namespace ClientModel

namespace Naming

/-! ### Names of properties -/

/-- What is left of a key without blanks and quotes around it. -/
def nameCharacters (characters : List Char) : List Char :=
  withoutQuotes (Text.trim characters)

/-- The name of a property, given its key. -/
def propertyName (key : String) : String := String.ofList (nameCharacters key.toList)

/-- The marks that are taken for quotes around a key. -/
def quotes : List Char := [apostrophe, '"']

/-- A text between two marks of one kind. -/
def enclosed (mark : Char) (inner : List Char) : List Char := mark :: (inner ++ [mark])

theorem getLast?_enclosed (mark : Char) (inner : List Char) :
    (enclosed mark inner).getLast? = some mark :=
  List.getLast?_concat (l := mark :: inner)

theorem withoutQuotes_enclosed {quote : Char} (among : quote ∈ quotes) (inner : List Char) :
    withoutQuotes (enclosed quote inner) = inner := by
  have marks : (quote == apostrophe || quote == '"') = true := by
    simpa [quotes] using among
  obtain ⟨second, rest, same⟩ : ∃ second rest, inner ++ [quote] = second :: rest :=
    List.exists_cons_of_ne_nil (List.concat_ne_nil quote inner)
  rw [enclosed, same, withoutQuotes, marks, ← same]
  simp

/-- Either quotes enclose a text, or none are taken away. -/
theorem withoutQuotes_cases (characters : List Char) :
    withoutQuotes characters = characters ∨
      ∃ quote ∈ quotes, characters = enclosed quote (withoutQuotes characters) := by
  unfold withoutQuotes
  split
  · next first second rest =>
    split
    · next both =>
      rw [Bool.and_eq_true, beq_iff_eq] at both
      refine Or.inr ⟨first, by simpa [quotes] using both.1, ?_⟩
      rw [enclosed, List.dropLast_append_getLast? first both.2]
    · exact Or.inl rfl
  · exact Or.inl rfl

/-- A key that is a name already: no blanks at its ends, and no quotes of one kind around it. -/
structure IsPlainKey (key : String) : Prop where
  trimmed : Text.trimmed key = key
  unenclosed : ∀ quote ∈ quotes, ∀ inner, key.toList ≠ enclosed quote inner

theorem isPlainKey_iff (key : String) :
    IsPlainKey key ↔ Text.trimmed key = key ∧ withoutQuotes key.toList = key.toList := by
  constructor
  · intro plain
    refine ⟨plain.trimmed, (withoutQuotes_cases key.toList).resolve_right ?_⟩
    rintro ⟨quote, among, same⟩
    exact plain.unenclosed quote among _ same
  · rintro ⟨trimmed, same⟩
    refine ⟨trimmed, fun quote among inner enclosing => ?_⟩
    rw [enclosing, withoutQuotes_enclosed among] at same
    have lengths := congrArg List.length same
    simp only [enclosed, List.length_cons, List.length_append, List.length_nil] at lengths
    omega

instance (key : String) : Decidable (IsPlainKey key) :=
  decidable_of_iff _ (isPlainKey_iff key).symm

theorem IsPlainKey.trim_eq {key : String} (plain : IsPlainKey key) :
    Text.trim key.toList = key.toList :=
  Text.trim_toList_of_trimmed plain.trimmed

theorem IsPlainKey.nameCharacters_eq {key : String} (plain : IsPlainKey key) :
    nameCharacters key.toList = key.toList := by
  rw [nameCharacters, plain.trim_eq]
  exact ((isPlainKey_iff key).1 plain).2

/-! ### Identifiers -/

theorem isBlank_of_isBareFurther {character : Char} (further : isBareFurther character = true) :
    Text.isBlank character = false := by
  have codes : ∀ code < 123, isBareFurther (Char.ofNat code) = true →
      Text.isBlank (Char.ofNat code) = false := by decide
  have bound : character.toNat < 123 := by
    rcases (isBareFurther_iff character).1 further with alphanumeric | rfl | rfl
    · simp only [isAlphanumeric, isLetter, Bool.or_eq_true, isLowerLetter_iff,
        isUpperLetter_iff, Text.isAsciiDigit, Bool.and_eq_true, decide_eq_true_eq] at alphanumeric
      rcases alphanumeric with letter | ⟨_, digit⟩
      · omega
      · have most : character.toNat ≤ 57 := digit
        omega
    · decide
    · decide
  rw [← Char.ofNat_toNat character] at further ⊢
  exact codes _ bound further

/-- A word of characters that accessors are made of. -/
abbrev IsBareWord (characters : List Char) : Prop := IsWord isBareStart isBareFurther characters

namespace IsBareWord

variable {word : List Char} (bare : IsBareWord word)

include bare

theorem isBareFurther_of_mem {character : Char} (member : character ∈ word) :
    isBareFurther character = true := by
  obtain ⟨first, rest, rfl, starts, goesOn⟩ := bare
  rcases List.mem_cons.1 member with rfl | inside
  · rw [isBareFurther, starts, Bool.true_or]
  · exact List.all_eq_true.1 goesOn character inside

theorem not_mem {character : Char} (other : isBareFurther character = false) :
    character ∉ word := by
  intro member
  rw [bare.isBareFurther_of_mem member] at other
  cases other

theorem trim_eq : Text.trim word = word := by
  have inside {character : Char} (member : character ∈ word) : Text.isBlank character = false :=
    isBlank_of_isBareFurther (bare.isBareFurther_of_mem member)
  exact Text.trim_of_ends (fun first starts => inside (List.mem_of_mem_head? starts))
    fun last ends => inside (List.mem_of_getLast? ends)

/-- No quotes enclose an identifier. -/
theorem ne_enclosed {quote : Char} (among : quote ∈ quotes) (inner behind : List Char) :
    word ++ behind ≠ enclosed quote inner := by
  obtain ⟨first, rest, rfl, starts, _⟩ := bare
  intro same
  have other : quotes.all (fun quote => !isBareStart quote) = true := by decide
  have unlike := List.all_eq_true.1 other quote among
  rw [← (List.cons.inj same).1, starts] at unlike
  cases unlike

theorem withoutQuotes_eq : withoutQuotes word = word := by
  refine (withoutQuotes_cases word).resolve_right ?_
  rintro ⟨quote, among, same⟩
  exact bare.ne_enclosed among _ [] (by rw [List.append_nil, ← same])

theorem isBareName_eq : isBareName word = true :=
  isWordOf_of_isWord bare (bare.not_mem (by decide))

/-- With a line break behind it an identifier is still taken for one. -/
theorem isBareName_concat : isBareName (word ++ ['\n']) = true := by
  rw [isBareName, isWordOf, List.getLast?_concat, beq_self_eq_true, if_pos rfl,
    List.dropLast_concat]
  obtain ⟨first, rest, rfl, starts, goesOn⟩ := bare
  exact Bool.and_eq_true_iff.2 ⟨starts, goesOn⟩

/-- An identifier is its own accessor. -/
theorem propertyCharacters_eq : propertyCharacters word = word := by
  simp only [propertyCharacters, bare.trim_eq, bare.withoutQuotes_eq, bare.isBareName_eq, if_true]

end IsBareWord

/-! ### Accessors -/

/-- The accessor of a name that is not taken for an identifier is the name between apostrophes. -/
theorem propertyCharacters_of_not_isBareName {characters : List Char}
    (other : isBareName (nameCharacters characters) = false) :
    propertyCharacters characters = enclosed apostrophe (nameCharacters characters) := by
  rw [nameCharacters] at other ⊢
  simp only [propertyCharacters, other, Bool.false_eq_true, if_false]
  rfl

theorem propertyCharacters_of_isBareName {characters : List Char}
    (bare : isBareName (nameCharacters characters) = true) :
    propertyCharacters characters = nameCharacters characters := by
  rw [nameCharacters] at bare ⊢
  simp only [propertyCharacters, bare, if_true]

theorem nameCharacters_enclosed (inner : List Char) :
    nameCharacters (enclosed apostrophe inner) = inner := by
  have mark : Text.isBlank apostrophe = false := by decide
  have trimmed : Text.trim (enclosed apostrophe inner) = enclosed apostrophe inner := by
    refine Text.trim_of_ends (fun first starts => ?_) fun last ends => ?_
    · rw [← Option.some.inj starts]
      exact mark
    · rw [getLast?_enclosed] at ends
      rw [← Option.some.inj ends]
      exact mark
  rw [nameCharacters, trimmed, withoutQuotes_enclosed (by decide)]

/-- A name between apostrophes that needs them is its own accessor. -/
theorem propertyCharacters_enclosed {inner : List Char} (other : isBareName inner = false) :
    propertyCharacters (enclosed apostrophe inner) = enclosed apostrophe inner := by
  have name := nameCharacters_enclosed inner
  rw [propertyCharacters_of_not_isBareName (by rw [name, other]), name]

/-- A line break behind an identifier is taken away. -/
theorem propertyCharacters_concat {word : List Char} (bare : IsBareWord word) :
    propertyCharacters (word ++ ['\n']) = word := by
  have same : nameCharacters (word ++ ['\n']) = nameCharacters word := by
    rw [nameCharacters, Text.trim_concat_of_isBlank (by decide) word, nameCharacters]
  have name : nameCharacters word = word := by
    rw [nameCharacters, bare.trim_eq, bare.withoutQuotes_eq]
  rw [propertyCharacters_of_isBareName (by rw [same, name, bare.isBareName_eq]), same, name]

/-- A key in which quotes enclose an identifier with a line break behind it. -/
def EnclosesBreak (key : String) : Prop :=
  ∃ quote ∈ quotes, ∃ word, IsBareWord word ∧
    Text.trim key.toList = enclosed quote (word ++ ['\n'])

/-- The line break of a name stood between quotes, since none stands at the end of a key. -/
theorem enclosesBreak_iff (key : String) :
    EnclosesBreak key ↔ ∃ word, IsBareWord word ∧ nameCharacters key.toList = word ++ ['\n'] := by
  constructor
  · rintro ⟨quote, among, word, bare, same⟩
    exact ⟨word, bare, by rw [nameCharacters, same, withoutQuotes_enclosed among]⟩
  · rintro ⟨word, bare, name⟩
    rw [nameCharacters] at name
    rcases withoutQuotes_cases (Text.trim key.toList) with same | ⟨quote, among, same⟩
    · have ends : '\n' ∈ (Text.trim key.toList).getLast? := by
        rw [← same, name]
        exact List.getLast?_concat
      exact absurd (Text.isBlank_of_getLast?_trim ends) (by decide)
    · exact ⟨quote, among, word, bare, by rw [same, name]⟩

/-- The accessor of a key whose name has a line break behind it is that name. -/
theorem EnclosesBreak.accessor {key : String} (broken : EnclosesBreak key) :
    ∃ word, IsBareWord word ∧ propertyCharacters key.toList = word ++ ['\n'] := by
  obtain ⟨word, bare, name⟩ := (enclosesBreak_iff key).1 broken
  have found : isBareName (nameCharacters key.toList) = true := name ▸ bare.isBareName_concat
  exact ⟨word, bare, (propertyCharacters_of_isBareName found).trans name⟩

/-- Any other accessor is the name of its key, bare or between apostrophes. -/
theorem accessor_of_not_enclosesBreak {key : String} (sound : ¬EnclosesBreak key) :
    (IsBareWord (nameCharacters key.toList) ∧
        propertyCharacters key.toList = nameCharacters key.toList) ∨
      (isBareName (nameCharacters key.toList) = false ∧
        propertyCharacters key.toList = enclosed apostrophe (nameCharacters key.toList)) := by
  cases found : isBareName (nameCharacters key.toList) with
  | false => exact Or.inr ⟨rfl, propertyCharacters_of_not_isBareName found⟩
  | true =>
    have same := propertyCharacters_of_isBareName found
    rcases isWord_or_of_isWordOf found with bare | ⟨word, bare, name⟩
    · exact Or.inl ⟨bare, same⟩
    · exact absurd ((enclosesBreak_iff key).2 ⟨word, bare, name⟩) sound

/-- A text between apostrophes. -/
def IsQuoted (text : String) : Prop := ∃ inner, text.toList = enclosed apostrophe inner

/-- A plain key has no line break behind its name. -/
theorem IsPlainKey.not_enclosesBreak {key : String} (plain : IsPlainKey key) :
    ¬EnclosesBreak key := by
  rintro ⟨quote, among, word, _, same⟩
  exact plain.unenclosed quote among _ (plain.trim_eq.symm.trans same)

/-- The accessor of a plain key is the key itself, bare or between apostrophes. -/
theorem IsPlainKey.accessor {key : String} (plain : IsPlainKey key) :
    propertyCharacters key.toList = key.toList ∨
      propertyCharacters key.toList = enclosed apostrophe key.toList := by
  have cases := accessor_of_not_enclosesBreak plain.not_enclosesBreak
  rw [plain.nameCharacters_eq] at cases
  exact cases.imp And.right And.right

theorem injOn_propertyIdentifier : Set.InjOn propertyIdentifier {key | IsPlainKey key} := by
  intro key plain other plainOther same
  have characters : propertyCharacters key.toList = propertyCharacters other.toList :=
    String.ofList_injective same
  have unlike {key : String} (plain : IsPlainKey key) (inner : List Char) :
      key.toList ≠ enclosed apostrophe inner := plain.unenclosed apostrophe (by decide) inner
  rcases plain.accessor with bare | quoted <;>
    rcases plainOther.accessor with bareOther | quotedOther
  · rw [bare, bareOther] at characters
    exact String.toList_injective characters
  · rw [bare, quotedOther] at characters
    exact absurd characters (unlike plain _)
  · rw [quoted, bareOther] at characters
    exact absurd characters.symm (unlike plainOther _)
  · rw [quoted, quotedOther] at characters
    exact String.toList_injective (List.append_cancel_right (List.cons.inj characters).2)

theorem propertyIdentifier_of_isIdentifier {name : String} (bare : IsIdentifier name) :
    propertyIdentifier name = name := by
  rw [propertyIdentifier, IsBareWord.propertyCharacters_eq bare, String.ofList_toList]

/-- The accessor of a key with a sound name is an identifier or stands between apostrophes, and is
its own accessor. -/
theorem accessor_settles {key : String} (sound : ¬EnclosesBreak key) :
    (IsIdentifier (propertyIdentifier key) ∨ IsQuoted (propertyIdentifier key)) ∧
      propertyIdentifier (propertyIdentifier key) = propertyIdentifier key := by
  simp only [IsIdentifier, IsQuoted, propertyIdentifier, String.toList_ofList]
  rcases accessor_of_not_enclosesBreak sound with ⟨bare, same⟩ | ⟨other, same⟩
  · rw [same]
    exact ⟨Or.inl bare, congrArg String.ofList (IsBareWord.propertyCharacters_eq bare)⟩
  · rw [same]
    exact ⟨Or.inr ⟨_, rfl⟩, congrArg String.ofList (propertyCharacters_enclosed other)⟩

/-- The accessor of a key with a broken name is neither, and its own accessor is without the
break. -/
theorem EnclosesBreak.accessor_differs {key : String} (broken : EnclosesBreak key) :
    ¬IsIdentifier (propertyIdentifier key) ∧ ¬IsQuoted (propertyIdentifier key) ∧
      propertyIdentifier (propertyIdentifier key) ≠ propertyIdentifier key ∧
      IsIdentifier (propertyIdentifier (propertyIdentifier key)) := by
  obtain ⟨word, bare, same⟩ := broken.accessor
  simp only [IsIdentifier, IsQuoted, propertyIdentifier, String.toList_ofList, same,
    propertyCharacters_concat bare]
  refine ⟨fun longer => ?_, ?_, fun equal => ?_, bare⟩
  · exact IsBareWord.not_mem longer (by decide) (List.mem_append_right _ List.mem_cons_self)
  · rintro ⟨inner, quoted⟩
    exact bare.ne_enclosed (by decide) inner _ quoted
  · have lengths := congrArg List.length (String.ofList_injective equal)
    simp at lengths

/-- The accessor of a key is an identifier or stands between apostrophes, and is its own accessor,
exactly if no quotes enclose an identifier with a line break behind it in the key. Even there the
accessor of the accessor is its own. A key without blanks and quotes around it has an accessor that
no other such key has. -/
theorem accessor_of_key (key : String) :
    (IsIdentifier (propertyIdentifier key) ∨ IsQuoted (propertyIdentifier key) ↔
      ¬EnclosesBreak key) ∧
    (propertyIdentifier (propertyIdentifier key) = propertyIdentifier key ↔ ¬EnclosesBreak key) ∧
    propertyIdentifier (propertyIdentifier (propertyIdentifier key)) =
      propertyIdentifier (propertyIdentifier key) ∧
    ∀ other, IsPlainKey key → IsPlainKey other →
      (propertyIdentifier key = propertyIdentifier other ↔ key = other) := by
  refine ⟨⟨fun settled broken => ?_, fun sound => (accessor_settles sound).1⟩,
    ⟨fun same broken => broken.accessor_differs.2.2.1 same,
      fun sound => (accessor_settles sound).2⟩, ?_,
    fun other plain plain' => injOn_propertyIdentifier.eq_iff plain plain'⟩
  · exact settled.elim broken.accessor_differs.1 broken.accessor_differs.2.1
  · by_cases broken : EnclosesBreak key
    · exact propertyIdentifier_of_isIdentifier broken.accessor_differs.2.2.2
    · rw [(accessor_settles broken).2, (accessor_settles broken).2]

/-- A quoted key, and two keys of which one has quotes that do not match. -/
theorem accessor_of_key_createdAt :
    ¬EnclosesBreak " \"created-at\" " ∧
      propertyIdentifier " \"created-at\" " = "'created-at'" ∧
      propertyIdentifier "'created-at'" = "'created-at'" ∧
      IsPlainKey "created-at" ∧ IsPlainKey "'created-at\"" ∧
      propertyIdentifier "created-at" ≠ propertyIdentifier "'created-at\"" := by
  obtain ⟨shape, settles, _⟩ := accessor_of_key " \"created-at\" "
  have accessor : propertyIdentifier " \"created-at\" " = "'created-at'" := by decide
  have sound : ¬EnclosesBreak " \"created-at\" " :=
    shape.1 (Or.inr ⟨"created-at".toList, by rw [accessor]; decide⟩)
  have again := settles.2 sound
  rw [accessor] at again
  have plain : IsPlainKey "created-at" := by decide
  have plainQuote : IsPlainKey "'created-at\"" := by decide
  have tells := (accessor_of_key "created-at").2.2.2 "'created-at\"" plain plainQuote
  exact ⟨sound, accessor, again, plain, plainQuote, fun same => absurd (tells.1 same) (by decide)⟩

/-- Quotes around an identifier and a line break: the accessor is neither an identifier nor between
apostrophes, and the accessor of the accessor is another. -/
theorem propertyIdentifier_quotedBreak :
    propertyIdentifier "'a\n'" = "a\n" ∧ ¬IsIdentifier "a\n" ∧ ¬IsQuoted "a\n" ∧
      propertyIdentifier (propertyIdentifier "'a\n'") ≠ propertyIdentifier "'a\n'" := by
  refine ⟨by decide, by decide, ?_, by decide⟩
  rintro ⟨inner, same⟩
  cases same

end Naming

end ClientModel
