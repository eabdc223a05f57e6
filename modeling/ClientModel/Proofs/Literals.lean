/-
This file says when an accessor can be written into generated code as it is. Languages differ in
which characters break a line of a literal and in what stands behind a backslash, so both are left
open; only the backslash, the apostrophe and the line feed have the same part in all of them. The
main statement is that a name between apostrophes denotes that name exactly if none of its
characters has such a part, whatever the language.
-/

import ClientModel.Proofs.Accessors
import ClientModel.Proofs.ModelAccessors

namespace ClientModel

open Naming

/-! ### Literals -/

/-- How a language reads literals between apostrophes. -/
structure LiteralSyntax where
  /-- Whether a character ends the line, which a literal may not do. -/
  breaksLine : Char → Bool
  breaksLine_lineFeed : breaksLine '\n' = true
  /-- What the characters behind a backslash stand for, and the characters behind these. -/
  escape? : List Char → Option (List Char × List Char)
  /-- An escape stands for no more characters than are read behind its backslash. -/
  length_le : ∀ {characters meant behind}, escape? characters = some (meant, behind) →
    meant.length + behind.length ≤ characters.length

namespace LiteralSyntax

variable (language : LiteralSyntax)

/-- A character that stands for itself in a literal. -/
def isPlain (character : Char) : Bool :=
  character != apostrophe && character != '\\' && !language.breaksLine character

/-- What the characters between two apostrophes denote: nothing where one of them ends the literal
or the line, or where a backslash has no meaning. -/
def denoted? : List Char → Option (List Char)
  | [] => some []
  | character :: rest =>
    if character = '\\' then
      match _ : language.escape? rest with
      | some (meant, behind) => (denoted? behind).map (meant ++ ·)
      | none => none
    else if language.isPlain character then (denoted? rest).map (character :: ·)
    else none
termination_by characters => characters.length
decreasing_by
  · have bound := language.length_le ‹_›
    rw [List.length_cons]
    omega
  · exact Nat.lt_succ_self _

theorem denoted?_cons_of_isPlain {character : Char} (plain : language.isPlain character = true)
    (rest : List Char) :
    language.denoted? (character :: rest) = (language.denoted? rest).map (character :: ·) := by
  have unescaped : character ≠ '\\' := by
    rintro rfl
    simp [isPlain] at plain
  rw [denoted?, if_neg unescaped, if_pos plain]

/-- No more characters are denoted than are written. -/
theorem length_le_of_denoted? {characters meant : List Char}
    (denotes : language.denoted? characters = some meant) :
    meant.length ≤ characters.length := by
  fun_induction language.denoted? characters generalizing meant with
  | case1 =>
    obtain rfl := Option.some.inj denotes
    exact le_rfl
  | case2 rest here behind found inductionHypothesis =>
    obtain ⟨further, denoted, rfl⟩ := Option.map_eq_some_iff.1 denotes
    have bound := language.length_le found
    have shorter := inductionHypothesis denoted
    rw [List.length_append, List.length_cons]
    omega
  | case3 => cases denotes
  | case4 character rest _ _ inductionHypothesis =>
    obtain ⟨further, denoted, rfl⟩ := Option.map_eq_some_iff.1 denotes
    exact Nat.succ_le_succ (inductionHypothesis denoted)
  | case5 => cases denotes

/-- Characters denote themselves exactly if each stands for itself: with an escape, fewer characters
would be denoted than are written. -/
theorem denoted?_eq_self_iff (characters : List Char) :
    language.denoted? characters = some characters ↔
      ∀ character ∈ characters, language.isPlain character = true := by
  constructor
  · intro denotes
    fun_induction language.denoted? characters with
    | case1 => nofun
    | case2 rest here behind found inductionHypothesis =>
      obtain ⟨further, denoted, same⟩ := Option.map_eq_some_iff.1 denotes
      have bound := language.length_le found
      have shorter := language.length_le_of_denoted? denoted
      have lengths := congrArg List.length same
      rw [List.length_append, List.length_cons] at lengths
      omega
    | case3 => cases denotes
    | case4 character rest _ plain inductionHypothesis =>
      obtain ⟨further, denoted, same⟩ := Option.map_eq_some_iff.1 denotes
      rw [(List.cons.inj same).2] at denoted
      exact List.forall_mem_cons.2 ⟨plain, inductionHypothesis denoted⟩
    | case5 => cases denotes
  · intro plain
    induction characters with
    | nil => rw [denoted?]
    | cons character rest inductionHypothesis =>
      obtain ⟨here, further⟩ := List.forall_mem_cons.1 plain
      rw [denoted?_cons_of_isPlain language here, inductionHypothesis further]
      rfl

/-- A text that is a literal between apostrophes and denotes a name. -/
def IsLiteralOf (text name : String) : Prop :=
  ∃ inner, text.toList = enclosed apostrophe inner ∧ language.denoted? inner = some name.toList

/-- A text that can be written for a name as it stands: the name itself where it is an identifier,
or a literal that denotes it. -/
def Emits (text name : String) : Prop :=
  (IsIdentifier name ∧ text = name) ∨ language.IsLiteralOf text name

/-- A name between apostrophes denotes itself where its characters stand for themselves. -/
theorem isLiteralOf_iff {text name : String}
    (same : text.toList = enclosed apostrophe name.toList) :
    language.IsLiteralOf text name ↔
      ∀ character ∈ name.toList, language.isPlain character = true := by
  rw [← denoted?_eq_self_iff]
  constructor
  · rintro ⟨inner, enclosing, denotes⟩
    have inside : inner = name.toList :=
      List.append_cancel_right (List.cons.inj (enclosing.symm.trans same)).2
    rwa [inside] at denotes
  · exact fun denotes => ⟨_, same, denotes⟩

/-- The accessor of a plain key that is no identifier is that key between apostrophes, and a literal
that denotes the key where its characters stand for themselves. -/
theorem literal_of_isPlainKey {key : String} (plain : IsPlainKey key)
    (differs : propertyIdentifier key ≠ key) :
    (propertyIdentifier key).toList = enclosed apostrophe key.toList ∧
      (language.IsLiteralOf (propertyIdentifier key) key ↔
        ∀ character ∈ key.toList, language.isPlain character = true) := by
  have quoted : (propertyIdentifier key).toList = enclosed apostrophe key.toList := by
    rw [propertyIdentifier, String.toList_ofList]
    refine plain.accessor.resolve_left fun same => differs ?_
    rw [propertyIdentifier, same, String.ofList_toList]
  exact ⟨quoted, language.isLiteralOf_iff quoted⟩

/-- An accessor can be written for the name of its key exactly if the name is an identifier, or its
characters stand for themselves. -/
theorem emits_propertyIdentifier_iff (key : String) :
    language.Emits (propertyIdentifier key) (propertyName key) ↔
      IsIdentifier (propertyName key) ∨
        ∀ character ∈ (propertyName key).toList, language.isPlain character = true := by
  have name : (propertyName key).toList = nameCharacters key.toList := String.toList_ofList
  have accessor : (propertyIdentifier key).toList = propertyCharacters key.toList :=
    String.toList_ofList
  by_cases broken : EnclosesBreak key
  · -- The line break keeps the name from being an identifier, and from standing in a literal.
    obtain ⟨word, bare, same⟩ := (enclosesBreak_iff key).1 broken
    have member : '\n' ∈ (propertyName key).toList := by
      rw [name, same]
      exact List.mem_append_right _ List.mem_cons_self
    have unnamed : ¬IsIdentifier (propertyName key) := fun identifier =>
      IsBareWord.not_mem identifier (by decide) member
    have unquoted : ¬language.IsLiteralOf (propertyIdentifier key) (propertyName key) := by
      rintro ⟨inner, enclosing, _⟩
      exact broken.accessor_differs.2.1 ⟨inner, enclosing⟩
    have impure : ¬∀ character ∈ (propertyName key).toList,
        language.isPlain character = true := by
      intro each
      have lineFeed := each '\n' member
      simp [isPlain, language.breaksLine_lineFeed] at lineFeed
    simp only [Emits, unnamed, unquoted, impure, false_and, or_self]
  · rcases accessor_of_not_enclosesBreak broken with ⟨bare, same⟩ | ⟨other, same⟩
    · have identifier : IsIdentifier (propertyName key) := by
        rw [IsIdentifier, name]
        exact bare
      have equal : propertyIdentifier key = propertyName key := congrArg String.ofList same
      exact iff_of_true (Or.inl ⟨identifier, equal⟩) (Or.inl identifier)
    · have quoted : (propertyIdentifier key).toList =
          enclosed apostrophe (propertyName key).toList := by rw [accessor, same, name]
      have unnamed : ¬IsIdentifier (propertyName key) := by
        rw [IsIdentifier, name]
        intro bare
        rw [IsBareWord.isBareName_eq bare] at other
        cases other
      simp only [Emits, unnamed, false_and, false_or, language.isLiteralOf_iff quoted]

end LiteralSyntax

/-- In every language, the accessor of a key without blanks and quotes around it is the key itself,
or else the key between apostrophes, which is a literal that denotes the key exactly if all of its
characters stand for themselves in a literal. Every accessor in a model is that of its key, and it
can be written for the name of the key as it stands exactly if this name is an identifier, or all
of its characters stand for themselves. -/
theorem emission_of_accessors (language : LiteralSyntax) :
    (∀ key, IsPlainKey key → propertyIdentifier key ≠ key →
      (propertyIdentifier key).toList = enclosed apostrophe key.toList ∧
        (language.IsLiteralOf (propertyIdentifier key) key ↔
          ∀ character ∈ key.toList, language.isPlain character = true)) ∧
    ∀ document operationIds model,
      (Assembly.modelOf document operationIds).result = .ok model →
        ∀ key accessor, (key, accessor) ∈ model.accessors →
          accessor = propertyIdentifier key ∧
            (language.Emits accessor (propertyName key) ↔
              IsIdentifier (propertyName key) ∨
                ∀ character ∈ (propertyName key).toList, language.isPlain character = true) := by
  refine ⟨fun key plain differs => language.literal_of_isPlainKey plain differs, ?_⟩
  intro document operationIds model built key accessor member
  obtain rfl := Assembly.accessors_of_modelOf built member
  exact ⟨rfl, language.emits_propertyIdentifier_iff key⟩

/-- Literals that end at a line feed or a carriage return, in which a backslash and the letter n
stand for a line feed, and a backslash and any other character for that character. -/
def commonSyntax : LiteralSyntax where
  breaksLine character := character == '\n' || character == '\r'
  breaksLine_lineFeed := rfl
  escape?
    | [] => none
    | character :: rest => some ([if character == 'n' then '\n' else character], rest)
  length_le {characters meant behind} found := by
    cases characters with
    | nil => cases found
    | cons character rest =>
      obtain ⟨rfl, rfl⟩ := Prod.mk.inj (Option.some.inj found)
      simp [Nat.add_comm]

/-- A document with an operation that has a parameter and answers with an object. -/
def datedDocument : Document where
  version := "3.0.0"
  info := ⟨"Notes", "1", none⟩
  servers := []
  schemas := [("note", .object {} (some [("created-at", .primitive {} "string"),
    ("text", .array {} (some (.object {} (some [("2fa", .primitive {} "string")]) []
      .unspecified)))]) [] .unspecified)]
  operations :=
    [{ path := "/notes", verb := .get, operationId := some "notes/list", summary := none
       description := none, tags := [], deprecated := false
       parameters := [⟨"page size", "query", false, none, .primitive {} "integer"⟩]
       requestBody := none, responses := [] }]

theorem emission_of_accessors_datedDocument :
    IsPlainKey "created-at" ∧ propertyIdentifier "created-at" ≠ "created-at" ∧
      commonSyntax.IsLiteralOf (propertyIdentifier "created-at") "created-at" ∧
      ∃ model, (Assembly.modelOf datedDocument none).result = .ok model ∧
        model.accessors = [("created-at", "'created-at'"), ("text", "text"), ("2fa", "'2fa'"),
          ("page size", "'page size'")] ∧
        ∀ entry ∈ model.accessors, commonSyntax.Emits entry.2 (propertyName entry.1) := by
  have plain : IsPlainKey "created-at" := by decide
  have differs : propertyIdentifier "created-at" ≠ "created-at" := by decide
  have literal := ((emission_of_accessors commonSyntax).1 _ plain differs).2.2
    (List.all_eq_true.1 (by decide))
  obtain ⟨model, built, listed⟩ : ∃ model,
      (Assembly.modelOf datedDocument none).result = .ok model ∧
        model.accessors = [("created-at", "'created-at'"), ("text", "text"), ("2fa", "'2fa'"),
          ("page size", "'page size'")] :=
    ⟨_, (Assembly.result_modelOf_iff _ _ _).2 ⟨_, _, rfl, rfl, rfl⟩, rfl⟩
  have clean : ∀ entry ∈ model.accessors, (IsIdentifier (propertyName entry.1) ∨
      (propertyName entry.1).toList.all commonSyntax.isPlain = true) := by
    rw [listed]
    decide
  refine ⟨plain, differs, literal, model, built, listed, fun entry member => ?_⟩
  have emits := ((emission_of_accessors commonSyntax).2 _ _ _ built entry.1 entry.2 member).2
  exact emits.2 ((clean entry member).imp_right List.all_eq_true.1)

/-- A key with an apostrophe, one with a backslash and one with a line break: the text between
apostrophes is no literal, or denotes another key. -/
theorem not_isLiteralOf_propertyIdentifier :
    (IsPlainKey "it's" ∧ propertyIdentifier "it's" = "'it's'" ∧
        ¬commonSyntax.IsLiteralOf "'it's'" "it's") ∧
      (IsPlainKey "a\\b" ∧ propertyIdentifier "a\\b" = "'a\\b'" ∧
        ¬commonSyntax.IsLiteralOf "'a\\b'" "a\\b") ∧
      IsPlainKey "a\nb" ∧ propertyIdentifier "a\nb" = "'a\nb'" ∧
        ¬commonSyntax.IsLiteralOf "'a\nb'" "a\nb" := by
  refine ⟨⟨by decide, by decide, ?_⟩, ⟨by decide, by decide, ?_⟩, by decide, by decide, ?_⟩
  · rw [commonSyntax.isLiteralOf_iff rfl, ← List.all_eq_true]
    decide
  · rw [commonSyntax.isLiteralOf_iff rfl, ← List.all_eq_true]
    decide
  · rw [commonSyntax.isLiteralOf_iff rfl, ← List.all_eq_true]
    decide

end ClientModel
