/-
This file compares two readings of a pointer to a named schema. Following the pointer through the
document unescapes its segments and always ends at the schema. Resolving a reference takes the last
segment as it stands, so it names the declaration of the schema exactly if the name of the schema
has no tilde and no slash in it. Where it has none, the reference never dangles in a model.
-/

import ClientModel.Proofs.Extraction
import ClientModel.Proofs.Filtering
import ClientModel.Proofs.Pointers
import ClientModel.Proofs.TypeNames

namespace ClientModel

/-! ### Names with tildes and slashes -/

/-- A name that a pointer writes as it is. -/
def IsPlain (name : String) : Prop := '~' ∉ name.toList ∧ '/' ∉ name.toList

instance (name : String) : Decidable (IsPlain name) := inferInstanceAs (Decidable (_ ∧ _))

namespace Naming

/-- How many characters of a name are escaped. -/
def countEscaped (characters : List Char) : Nat :=
  characters.countP fun character => character == '~' || character == '/'

/-- A tilde and a digit stand for a character that is escaped; neither is a separator. -/
theorem escape_cons_of_escaped {character : Char} (escaped : character = '~' ∨ character = '/')
    (rest : List Char) : ∃ digit, isSeparator digit = false ∧
      Pointer.escape (character :: rest) = '~' :: digit :: Pointer.escape rest := by
  rcases escaped with rfl | rfl
  · exact ⟨'0', by decide, Pointer.escape_tilde_cons rest⟩
  · exact ⟨'1', by decide, Pointer.escape_slash_cons rest⟩

theorem isSeparator_of_escaped {character : Char} (escaped : character = '~' ∨ character = '/') :
    isSeparator character = false := by
  rcases escaped with rfl | rfl <;> decide

theorem length_wordCharacters_cons {character : Char} (other : isSeparator character = false)
    (raise : Bool) (rest : List Char) :
    (wordCharacters raise (character :: rest)).length =
      (wordCharacters false rest).length + 1 := by
  rw [wordCharacters_of_not_isSeparator other, List.length_cons]

/-- A name is longer by one for each character that is escaped. -/
theorem length_wordCharacters_escape (raise : Bool) (characters : List Char) :
    (wordCharacters raise (Pointer.escape characters)).length =
      (wordCharacters raise characters).length + countEscaped characters := by
  induction characters generalizing raise with
  | nil => rfl
  | cons character rest inductionHypothesis =>
    have further := inductionHypothesis false
    by_cases escaped : character = '~' ∨ character = '/'
    · obtain ⟨digit, isDigit, written⟩ := escape_cons_of_escaped escaped rest
      have counted : countEscaped (character :: rest) = countEscaped rest + 1 :=
        List.countP_cons_of_pos (by simpa using escaped)
      rw [written, counted, length_wordCharacters_cons (by decide),
        length_wordCharacters_cons isDigit,
        length_wordCharacters_cons (isSeparator_of_escaped escaped)]
      omega
    · have counted : countEscaped (character :: rest) = countEscaped rest :=
        List.countP_cons_of_neg (by simpa using escaped)
      rw [not_or] at escaped
      rw [Pointer.escape_cons_of_ne escaped.1 escaped.2, counted]
      cases separator : isSeparator character with
      | true =>
        rw [wordCharacters_of_isSeparator separator, wordCharacters_of_isSeparator separator]
        exact inductionHypothesis true
      | false =>
        rw [length_wordCharacters_cons separator, length_wordCharacters_cons separator]
        omega

/-- Escaping does not change whether a digit comes first. -/
theorem head?_wordCharacters_escape (characters : List Char) :
    (wordCharacters true (Pointer.escape characters)).head?.any Text.isDigit =
      (wordCharacters true characters).head?.any Text.isDigit := by
  induction characters with
  | nil => rfl
  | cons character rest inductionHypothesis =>
    by_cases escaped : character = '~' ∨ character = '/'
    · obtain ⟨digit, _, written⟩ := escape_cons_of_escaped escaped rest
      rw [written, wordCharacters_of_not_isSeparator (by decide),
        wordCharacters_of_not_isSeparator (isSeparator_of_escaped escaped)]
      rcases escaped with rfl | rfl
      · rfl
      · show Text.isDigit (upperLetter '~') = Text.isDigit (upperLetter '/')
        decide
    · rw [not_or] at escaped
      rw [Pointer.escape_cons_of_ne escaped.1 escaped.2]
      cases separator : isSeparator character with
      | true =>
        rw [wordCharacters_of_isSeparator separator, wordCharacters_of_isSeparator separator]
        exact inductionHypothesis
      | false =>
        rw [wordCharacters_of_not_isSeparator separator,
          wordCharacters_of_not_isSeparator separator]
        rfl

theorem length_guardDigit (characters : List Char) :
    (guardDigit characters).length =
      characters.length + if characters.head?.any Text.isDigit then 1 else 0 := by
  cases characters with
  | nil => rfl
  | cons character rest =>
    cases digit : Text.isDigit character <;> simp [guardDigit, digit]

/-- A name with escaped characters has another type identifier than what writes it: a longer
one. -/
theorem length_typeCharacters_escape (characters : List Char) :
    (typeCharacters (Pointer.escape characters)).length =
      (typeCharacters characters).length + countEscaped characters := by
  rw [typeCharacters_eq, typeCharacters_eq, length_guardDigit, length_guardDigit,
    head?_wordCharacters_escape, length_wordCharacters_escape]
  omega

theorem typeIdentifier_escape_iff (name : String) :
    typeIdentifier (String.ofList (Pointer.escape name.toList)) = typeIdentifier name ↔
      IsPlain name := by
  constructor
  · intro same
    -- Escaping only makes identifiers longer, so equal ones have nothing escaped.
    have lengths := congrArg (fun text => text.toList.length) same
    simp only [typeIdentifier, String.toList_ofList, length_typeCharacters_escape] at lengths
    have none : countEscaped name.toList = 0 := by omega
    rw [countEscaped, List.countP_eq_zero] at none
    exact ⟨fun tilde => none _ tilde (by decide), fun slash => none _ slash (by decide)⟩
  · rintro ⟨noTilde, noSlash⟩
    rw [Pointer.escape_of_not_mem noTilde noSlash, String.ofList_toList]

end Naming

/-! ### Pointers to named schemas -/

/-- The pointer to a named schema, with the slashes and tildes of the name escaped. -/
def schemaPointer (swagger : Bool) (name : String) : String :=
  (if swagger then "#/definitions/" else "#/components/schemas/") ++
    String.ofList (Pointer.escape name.toList)

/-- The path to the named schemas. -/
def schemaPath (swagger : Bool) : List String :=
  if swagger then ["definitions"] else ["components", "schemas"]

theorem schemaPointer_eq_write (swagger : Bool) (name : String) :
    schemaPointer swagger name = Pointer.write (schemaPath swagger ++ [name]) := by
  have front (swagger : Bool) : (if swagger then "#/definitions/" else "#/components/schemas/") =
      String.ofList ('#' :: Pointer.writeSegments (schemaPath swagger) ++ ['/']) := by
    cases swagger <;> rfl
  rw [schemaPointer, front, ← String.ofList_append, Pointer.write, Pointer.writeSegments_append,
    List.append_assoc]
  rfl

theorem get?_of_get_get? {entries : Entries} {key name : String} {item : Value}
    (found : (entries.get key).entriesOrEmpty.get? name = some item) :
    entries.get? key = some (entries.get key) := by
  rw [Entries.get] at found ⊢
  cases present : entries.get? key with
  | none => rw [present] at found; cases found
  | some value => rfl

/-- The pointer to a named schema leads to it. -/
theorem resolve_schemaPointer {entries : Entries} {swagger : Bool} {name : String} {raw : Value}
    (declared : (Extraction.namedSchemas entries swagger).get? name = some raw) :
    Pointer.resolve (schemaPointer swagger name) (.map entries) = .ok raw := by
  rw [schemaPointer_eq_write]
  cases swagger with
  | true =>
    have outer : (Value.map entries).entriesOrEmpty.get? "definitions" =
        some (entries.get "definitions") := get?_of_get_get? declared
    show Pointer.resolve (Pointer.write ["definitions", name]) (.map entries) = .ok raw
    rw [Pointer.resolve_write, Pointer.foldlM_enter_cons _ outer,
      Pointer.foldlM_enter_cons _ declared]
    rfl
  | false =>
    have inner := get?_of_get_get? declared
    have outer : (Value.map entries).entriesOrEmpty.get? "components" =
        some (entries.get "components") := get?_of_get_get? inner
    show Pointer.resolve (Pointer.write ["components", "schemas", name]) (.map entries) = .ok raw
    rw [Pointer.resolve_write, Pointer.foldlM_enter_cons _ outer,
      Pointer.foldlM_enter_cons _ inner, Pointer.foldlM_enter_cons _ declared]
    rfl

/-- The name that a reference to a named schema stands for is the identifier of the schema if and
only if the name is plain. -/
theorem targetOf_schemaPointer_iff (swagger : Bool) (name : String) :
    Naming.typeIdentifier (targetOf (schemaPointer swagger name)) = Naming.typeIdentifier name ↔
      IsPlain name := by
  rw [schemaPointer_eq_write, Pointer.targetOf_write, Naming.typeIdentifier_escape_iff]

/-! ### References to named schemas -/

/-- A map with a pointer under the keyword of references is a reference, whatever else it holds. -/
theorem result_resolve_reference {fields : Entries} {pointer : String}
    (refers : fields.get "$ref" = .string pointer) :
    (resolve (parseSchema (.map fields))).result =
      .ok (.named (Naming.typeIdentifier (targetOf pointer))) := by
  simp only [parseSchema, refers]
  rfl

namespace Assembly

/-- The pointer to a named schema leads to it. A reference with this pointer resolves to the
declaration of the schema exactly if the name of the schema is plain; then a model that mentions
what the reference resolves to declares it, whichever operations are wanted. -/
theorem reference_namedSchema {entries : Entries} {document : Document}
    (understood : Extraction.documentOf entries = .ok document) {name : String} {raw : Value}
    (declared : (Extraction.namedSchemas entries
      (Extraction.isSwagger document.version)).get? name = some raw) :
    Pointer.resolve (schemaPointer (Extraction.isSwagger document.version) name) (.map entries) =
        .ok raw ∧
      ∃ node, (name, node) ∈ document.schemas ∧
        ∀ fields : Entries, fields.get "$ref" =
            .string (schemaPointer (Extraction.isSwagger document.version) name) →
          ∃ target, (resolve (parseSchema (.map fields))).result = .ok (.named target) ∧
            (∀ declaration, (declarationOf name node).result = .ok declaration →
              (target = declaration.identifier ↔ IsPlain name)) ∧
            (IsPlain name → ∀ operationIds model,
              (modelOf document operationIds).result = .ok model →
                model.Mentions target → model.declaration? target ≠ none) := by
  obtain ⟨node, member⟩ : ∃ node, (name, node) ∈ document.schemas :=
    Extraction.exists_mem_schemas (Extraction.schemas_of_documentOf understood)
      (Entries.mem_of_get? declared)
  have names := targetOf_schemaPointer_iff (Extraction.isSwagger document.version) name
  refine ⟨resolve_schemaPointer declared, node, member, fun fields refers => ?_⟩
  refine ⟨_, result_resolve_reference refers, fun declaration made => ?_, ?_⟩
  · rw [((result_declarationOf_iff name node declaration).1 made).identifier, names]
  · intro plain operationIds model built mentions
    rw [names.2 plain] at mentions ⊢
    exact declaration?_ne_none_of_mentions built member mentions

/-- A decoded document with a plain name, a name with a slash, and a reference to each. -/
def slashedEntries : Entries :=
  [(.string "swagger", .string "2.0"),
    (.string "definitions", .map
      [(.string "plain", .map [(.string "type", .string "object")]),
        (.string "a/b", .map [(.string "type", .string "object")]),
        (.string "uses", .map [(.string "$ref", .string "#/definitions/plain")]),
        (.string "misses", .map [(.string "$ref", .string "#/definitions/a~1b")])])]

theorem reference_namedSchema_slashedEntries :
    ∃ document node target, Extraction.documentOf slashedEntries = .ok document ∧
      (Extraction.namedSchemas slashedEntries
        (Extraction.isSwagger document.version)).get? "plain" =
          some (.map [(.string "type", .string "object")]) ∧
      (resolve (parseSchema
        (.map [(.string "$ref", .string "#/definitions/plain")]))).result = .ok (.named target) ∧
      (∀ declaration, (declarationOf "plain" node).result = .ok declaration →
        target = declaration.identifier) ∧
      ∀ operationIds model, (modelOf document operationIds).result = .ok model →
        model.Mentions target → model.declaration? target ≠ none := by
  have plain : IsPlain "plain" := by decide
  obtain ⟨document, reading, swagger⟩ : ∃ document,
      Extraction.documentOf slashedEntries = .ok document ∧
        Extraction.isSwagger document.version = true := ⟨_, rfl, rfl⟩
  have declared : (Extraction.namedSchemas slashedEntries
      (Extraction.isSwagger document.version)).get? "plain" =
        some (.map [(.string "type", .string "object")]) := by rw [swagger]; rfl
  have refers : Entries.get "$ref" [(.string "$ref", .string "#/definitions/plain")] =
      .string (schemaPointer (Extraction.isSwagger document.version) "plain") := by
    rw [swagger]
    rfl
  obtain ⟨_, node, _, references⟩ := reference_namedSchema reading declared
  obtain ⟨target, resolved, same, kept⟩ := references _ refers
  exact ⟨document, node, target, reading, declared, resolved,
    fun declaration made => (same declaration made).2 plain, kept plain⟩

/-- The pointer to a name with a slash leads to its schema, but a reference with this pointer
resolves to a name that nothing declares. -/
theorem dangling_reference_slashedEntries :
    ∃ document model, Extraction.documentOf slashedEntries = .ok document ∧
      (modelOf document none).result = .ok model ∧
      Pointer.resolve "#/definitions/a~1b" (.map slashedEntries) =
        .ok (.map [(.string "type", .string "object")]) ∧
      (resolve (parseSchema
        (.map [(.string "$ref", .string "#/definitions/a~1b")]))).result = .ok (.named "A~1b") ∧
      (model.declarations.map fun declaration => (declaration.name, declaration.identifier)) =
        [("plain", "Plain"), ("a/b", "A/b"), ("uses", "Uses"), ("misses", "Misses")] ∧
      model.Mentions "A~1b" ∧ model.declaration? "A~1b" = none := by
  refine ⟨_, _, rfl, (result_modelOf_iff _ _ _).2 ⟨_, _, rfl, rfl, rfl⟩, rfl, rfl, rfl, ?_, rfl⟩
  refine Or.inr ⟨⟨"misses", "Misses", .named "A~1b", none, []⟩, ?_, Or.inl .named⟩
  exact List.mem_of_getElem? (i := 3) rfl

end Assembly

end ClientModel
