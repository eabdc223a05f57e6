/-
This file says which names become identifiers that generated code can use as they are. A type
identifier is one unless the name of its schema has a character that is neither dropped nor
allowed, such as a dot. A method name is one where the first letter or digit of what it is named
for is a letter. A namespace is a plain word unless a line break stood behind it. The main statement
puts these together.
-/

import ClientModel.Proofs.NamespaceSplitting
import ClientModel.Proofs.TypeNames
import Mathlib.Data.List.Basic
import Mathlib.Data.List.TakeWhile
import Mathlib.Tactic.Tauto

namespace ClientModel.Naming

/-! ### Classes of characters -/

theorem isBareStart_iff (character : Char) :
    isBareStart character = true ↔
      isLetter character = true ∨ character = '_' ∨ character = '$' := by
  simp [isBareStart, or_assoc]

theorem isBareFurther_iff (character : Char) :
    isBareFurther character = true ↔
      isAlphanumeric character = true ∨ character = '_' ∨ character = '$' := by
  simp only [isBareFurther, isAlphanumeric, Bool.or_eq_true, isBareStart_iff]
  tauto

theorem isSeparator_iff (character : Char) :
    isSeparator character = true ↔ character = '-' ∨ character = '_' := by
  simp [isSeparator]

theorem isAlphanumeric_upperLetter (character : Char) :
    isAlphanumeric (upperLetter character) = isAlphanumeric character := by
  cases lower : isLowerLetter character with
  | false => rw [upperLetter_of_not_isLowerLetter lower]
  | true =>
    have upper := isUpperLetter_upperLetter lower
    simp [isAlphanumeric, isLetter, lower, upper]

/-- Raising a letter leaves a character in the class of further ones, or outside it. -/
theorem isBareFurther_upperLetter (character : Char) :
    isBareFurther (upperLetter character) = isBareFurther character := by
  cases lower : isLowerLetter character with
  | false => rw [upperLetter_of_not_isLowerLetter lower]
  | true =>
    have alphanumeric := isAlphanumeric_of_isLowerLetter lower
    have raised := (isAlphanumeric_upperLetter character).trans alphanumeric
    rw [(isBareFurther_iff _).2 (Or.inl raised), (isBareFurther_iff _).2 (Or.inl alphanumeric)]

/-! ### Type identifiers -/

/-- What a type identifier is made of is empty where the name has only separators. -/
theorem wordCharacters_ne_nil_iff (raise : Bool) (characters : List Char) :
    wordCharacters raise characters ≠ [] ↔
      ∃ character ∈ characters, isSeparator character = false := by
  induction characters generalizing raise with
  | nil => simp [wordCharacters]
  | cons character rest inductionHypothesis =>
    cases separator : isSeparator character with
    | true => simp [wordCharacters_of_isSeparator separator, inductionHypothesis, separator]
    | false => simp [wordCharacters_of_not_isSeparator separator, separator]

/-- All characters of a name but separators stay, raised or not. -/
theorem all_wordCharacters_iff (raise : Bool) (characters : List Char) :
    (∀ character ∈ wordCharacters raise characters, isBareFurther character = true) ↔
      ∀ character ∈ characters, isSeparator character = true ∨ isBareFurther character = true := by
  induction characters generalizing raise with
  | nil => simp [wordCharacters]
  | cons character rest inductionHypothesis =>
    cases separator : isSeparator character with
    | true => simp [wordCharacters_of_isSeparator separator, inductionHypothesis, separator]
    | false =>
      rw [wordCharacters_of_not_isSeparator separator]
      simp only [List.forall_mem_cons, inductionHypothesis, separator, Bool.false_eq_true, false_or]
      cases raise <;> simp [isBareFurther_upperLetter]

/-- A guarded word is an identifier where it has characters, and all of them can go on one. -/
theorem isWord_guardDigit_iff (word : List Char) :
    IsWord isBareStart isBareFurther (guardDigit word) ↔
      word ≠ [] ∧ ∀ character ∈ word, isBareFurther character = true := by
  cases word with
  | nil => simp [guardDigit, not_isWord_nil]
  | cons character rest =>
    cases digit : Text.isDigit character with
    | true =>
      have guarded : isBareStart '_' = true := by decide
      simp [guardDigit, digit, isWord_cons_iff, guarded]
    | false =>
      have ascii : Text.isAsciiDigit character = false := by
        rw [Bool.eq_false_iff]
        intro ascii
        rw [Text.isDigit_of_isAsciiDigit ascii] at digit
        cases digit
      simp [guardDigit, digit, isWord_cons_iff, isBareFurther, ascii]

/-- The type identifier of a name can be used as it is exactly where the name has a letter, a digit
or a dollar sign, and nothing beside these but separators. -/
theorem isIdentifier_typeIdentifier_iff (raw : String) :
    IsIdentifier (typeIdentifier raw) ↔
      (∃ character ∈ raw.toList, isAlphanumeric character = true ∨ character = '$') ∧
        ∀ character ∈ raw.toList,
          isAlphanumeric character = true ∨ character ∈ ['_', '-', '$'] := by
  rw [IsIdentifier, typeIdentifier, String.toList_ofList, typeCharacters_eq, isWord_guardDigit_iff,
    wordCharacters_ne_nil_iff, all_wordCharacters_iff]
  have allowed (character : Char) :
      isSeparator character = true ∨ isBareFurther character = true ↔
        isAlphanumeric character = true ∨ character ∈ ['_', '-', '$'] := by
    simp only [isSeparator_iff, isBareFurther_iff, List.mem_cons, List.not_mem_nil, or_false]
    tauto
  simp only [allowed]
  refine and_congr_left fun each => exists_congr fun character => and_congr_right fun member => ?_
  have inside := each character member
  rw [Bool.eq_false_iff, Ne, isSeparator_iff]
  constructor
  · intro kept
    simp only [List.mem_cons, List.not_mem_nil, or_false] at inside
    rcases inside with alphanumeric | underscore | dash | dollar
    · exact Or.inl alphanumeric
    · exact absurd (Or.inr underscore) kept
    · exact absurd (Or.inl dash) kept
    · exact Or.inr dollar
  · rintro (alphanumeric | rfl)
    · have kept := isSeparator_of_isAlphanumeric alphanumeric
      rwa [Bool.eq_false_iff, Ne, isSeparator_iff] at kept
    · decide

/-- A character that the name of a component may have. -/
def isComponentCharacter (character : Char) : Bool :=
  isAlphanumeric character || character == '.' || character == '_' || character == '-'

/-- Of the names of components it is those with a dot that do not give identifiers. -/
theorem isIdentifier_typeIdentifier_iff_of_component {raw : String}
    (component : ∀ character ∈ raw.toList, isComponentCharacter character = true)
    (filled : ∃ character ∈ raw.toList, isAlphanumeric character = true) :
    IsIdentifier (typeIdentifier raw) ↔ '.' ∉ raw.toList := by
  have starts : ∃ character ∈ raw.toList, isAlphanumeric character = true ∨ character = '$' := by
    obtain ⟨character, member, alphanumeric⟩ := filled
    exact ⟨character, member, Or.inl alphanumeric⟩
  rw [isIdentifier_typeIdentifier_iff, and_iff_right starts]
  constructor
  · intro each dotted
    exact absurd (each '.' dotted) (by decide)
  · intro undotted character member
    have inside := component character member
    have notDot : character ≠ '.' := fun same => undotted (same ▸ member)
    simp only [isComponentCharacter, Bool.or_eq_true, beq_iff_eq] at inside
    simp only [List.mem_cons, List.not_mem_nil, or_false]
    tauto

/-! ### Method names -/

/-- What a method name may have while it is made: letters, digits and underscores. -/
def IsMarked (characters : List Char) : Prop :=
  ∀ character ∈ characters, isAlphanumeric character = true ∨ character = '_'

theorem isMarked_markSeparators (characters : List Char) :
    IsMarked (markSeparators characters) := by
  intro character member
  obtain ⟨source, _, rfl⟩ := List.mem_map.1 member
  split
  · next alphanumeric => exact Or.inl alphanumeric
  · exact Or.inr rfl

theorem mem_of_mem_collapseRuns {characters : List Char} {character : Char}
    (member : character ∈ collapseRuns characters) : character ∈ characters := by
  fun_induction collapseRuns characters with
  | case1 => exact member
  | case2 => exact member
  | case3 first second rest both inductionHypothesis =>
    exact List.mem_cons_of_mem _ (inductionHypothesis member)
  | case4 first second rest notBoth inductionHypothesis =>
    rcases List.mem_cons.1 member with rfl | further
    · exact List.mem_cons_self
    · exact List.mem_cons_of_mem _ (inductionHypothesis further)

theorem mem_of_mem_withoutOuterMarks {characters : List Char} {character : Char}
    (member : character ∈ withoutOuterMarks characters) : character ∈ characters := by
  have inside := (List.dropWhile_sublist _).mem (List.mem_reverse.1 member)
  exact (List.dropWhile_sublist _).mem (List.mem_reverse.1 inside)

theorem IsMarked.raiseAfterMarks {characters : List Char} (marked : IsMarked characters) :
    IsMarked (raiseAfterMarks characters) := by
  fun_induction Naming.raiseAfterMarks characters with
  | case1 => exact marked
  | case2 => exact marked
  | case3 mark character rest both inductionHypothesis =>
    obtain ⟨_, lower⟩ := (Bool.and_eq_true _ _).mp both
    have raised : isAlphanumeric (upperLetter character) = true := by
      rw [isAlphanumeric_upperLetter, isAlphanumeric_of_isLowerLetter lower]
    simp only [IsMarked, List.forall_mem_cons] at marked ⊢
    exact ⟨Or.inl raised, inductionHypothesis marked.2.2⟩
  | case4 mark character rest notBoth inductionHypothesis =>
    have further : IsMarked (character :: rest) :=
      fun other member => marked other (List.mem_cons_of_mem _ member)
    exact List.forall_mem_cons.2 ⟨marked _ List.mem_cons_self, inductionHypothesis further⟩

/-- The first character that is no mark comes first once the outer marks are gone. -/
theorem head?_withoutOuterMarks (characters : List Char) :
    (withoutOuterMarks characters).head? = characters.find? (· != '_') := by
  have front : (characters.dropWhile (· == '_')).head? = characters.find? (· != '_') :=
    (List.find?_not_eq_head?_dropWhile (· == '_') characters).symm
  rw [← front, withoutOuterMarks]
  cases inner : characters.dropWhile (· == '_') with
  | nil => rfl
  | cons character rest =>
    have kept : (character == '_') = false := by
      have first := List.head?_dropWhile_not (· == '_') characters
      rw [inner] at first
      simpa using first
    rw [List.reverse_cons, List.dropWhile_append]
    split
    · simp [kept]
    · simp

theorem find?_collapseRuns (characters : List Char) :
    (collapseRuns characters).find? (· != '_') = characters.find? (· != '_') := by
  fun_induction collapseRuns characters with
  | case1 => rfl
  | case2 => rfl
  | case3 first second rest both inductionHypothesis =>
    obtain ⟨mark, _⟩ := (Bool.and_eq_true _ _).mp both
    rw [inductionHypothesis, List.find?_cons_of_neg (a := first) (by simpa using mark)]
  | case4 first second rest notBoth inductionHypothesis =>
    simp only [List.find?_cons, inductionHypothesis]

theorem find?_markSeparators (characters : List Char) :
    (markSeparators characters).find? (· != '_') = characters.find? isAlphanumeric := by
  induction characters with
  | nil => rfl
  | cons character rest inductionHypothesis =>
    have marks : isAlphanumeric '_' = false := by decide
    rw [markSeparators, List.map_cons, ← markSeparators]
    cases alphanumeric : isAlphanumeric character with
    | true =>
      have other : character ≠ '_' := by
        rintro rfl
        rw [marks] at alphanumeric
        cases alphanumeric
      simp [alphanumeric, other]
    | false => simp [alphanumeric, inductionHypothesis]

theorem head?_raiseAfterMarks {characters : List Char} (unmarked : characters.head? ≠ some '_') :
    (raiseAfterMarks characters).head? = characters.head? := by
  match characters with
  | [] => rfl
  | [_] => rfl
  | first :: second :: rest =>
    have other : first ≠ '_' := fun same => unmarked (congrArg some same)
    simp [raiseAfterMarks, other]

/-- A method name has letters, digits and underscores alone. It starts with the first letter or
digit of its text. -/
theorem methodCharacters_eq (characters : List Char) :
    ∃ name, methodCharacters characters = lowerFirst name ∧ IsMarked name ∧
      name.head? = characters.find? isAlphanumeric := by
  refine ⟨_, rfl, ?_, ?_⟩
  · refine IsMarked.raiseAfterMarks fun character member => ?_
    exact isMarked_markSeparators characters character
      (mem_of_mem_collapseRuns (mem_of_mem_withoutOuterMarks member))
  · have first : (withoutOuterMarks (collapseRuns (markSeparators characters))).head? =
        characters.find? isAlphanumeric := by
      rw [head?_withoutOuterMarks, find?_collapseRuns, find?_markSeparators]
    rw [head?_raiseAfterMarks, first]
    rw [first]
    intro mark
    exact absurd (List.find?_some mark) (by decide)

theorem lowerLetter_of_not_isUpperLetter {character : Char}
    (other : isUpperLetter character = false) : lowerLetter character = character := by
  simp [lowerLetter, other]

theorem toNat_lowerLetter {character : Char} (upper : isUpperLetter character = true) :
    (lowerLetter character).toNat = character.toNat + 32 := by
  have bounds := (isUpperLetter_iff character).1 upper
  have valid : (character.toNat + 32).isValidChar := Or.inl (by omega)
  rw [lowerLetter, if_pos upper, Char.ofNat, dif_pos valid]
  rfl

theorem isLetter_lowerLetter (character : Char) :
    isLetter (lowerLetter character) = isLetter character := by
  cases upper : isUpperLetter character with
  | false => rw [lowerLetter_of_not_isUpperLetter upper]
  | true =>
    have bounds := (isUpperLetter_iff character).1 upper
    have lowered : isLowerLetter (lowerLetter character) = true := by
      rw [isLowerLetter_iff, toNat_lowerLetter upper]
      omega
    simp [isLetter, lowered, upper]

theorem isAlphanumeric_lowerLetter (character : Char) :
    isAlphanumeric (lowerLetter character) = isAlphanumeric character := by
  cases upper : isUpperLetter character with
  | false => rw [lowerLetter_of_not_isUpperLetter upper]
  | true =>
    have letter : isLetter character = true := by simp [isLetter, upper]
    simp [isAlphanumeric, isLetter_lowerLetter, letter]

/-- A method name can be used as it is exactly where the first letter or digit of its text is a
letter. -/
theorem isIdentifier_methodIdentifier_iff (raw : String) :
    IsIdentifier (methodIdentifier raw) ↔
      ∃ character, raw.toList.find? isAlphanumeric = some character ∧
        isLetter character = true := by
  obtain ⟨name, same, marked, head⟩ := methodCharacters_eq raw.toList
  rw [IsIdentifier, methodIdentifier, String.toList_ofList, same, ← head]
  cases name with
  | nil => simp [lowerFirst, not_isWord_nil]
  | cons character rest =>
    have goesOn : ∀ other ∈ rest, isBareFurther other = true := by
      intro other member
      have inside := marked other (List.mem_cons_of_mem _ member)
      exact (isBareFurther_iff other).2 (inside.imp_right Or.inl)
    have alphanumeric : isAlphanumeric character = true := List.find?_some head.symm
    rw [lowerFirst, isWord_cons_iff, and_iff_left goesOn, isBareStart_iff]
    have noMark := (isAlphanumeric_lowerLetter character).trans alphanumeric
    have unmarked : lowerLetter character ≠ '_' := fun same => absurd (same ▸ noMark) (by decide)
    have unpriced : lowerLetter character ≠ '$' := fun same => absurd (same ▸ noMark) (by decide)
    simp only [List.head?_cons, Option.some.injEq, exists_eq_left', isLetter_lowerLetter, unmarked,
      unpriced, or_false]

/-! ### Namespaces -/

/-- What a segment of a namespace is: a plain word, which a line break may follow. -/
def IsSegment (segment : String) : Prop :=
  ∃ word, IsPlainWord word ∧ (segment = word ∨ segment = word ++ "\n")

/-- A segment is a plain word exactly where it has no line break. -/
theorem IsSegment.isPlainWord_iff {segment : String} (isSegment : IsSegment segment) :
    IsPlainWord segment ↔ '\n' ∉ segment.toList := by
  obtain ⟨word, isWord, rfl | rfl⟩ := isSegment
  · exact iff_of_true isWord (IsWord.not_mem isWord (by decide) (by decide))
  · have broken : '\n' ∈ (word ++ "\n").toList := by simp
    refine iff_of_false (fun whole => ?_) (not_not_intro broken)
    exact IsWord.not_mem whole (by decide) (by decide) broken

theorem isSegment_of_isCleanSegment {characters : List Char}
    (clean : isCleanSegment characters = true) : IsSegment (String.ofList characters) := by
  rcases isWord_or_of_isWordOf clean with word | ⟨word, isWord, rfl⟩
  · refine ⟨String.ofList characters, ?_, Or.inl rfl⟩
    rwa [IsPlainWord, String.toList_ofList]
  · refine ⟨String.ofList word, ?_, Or.inr (String.ofList_append ..)⟩
    rwa [IsPlainWord, String.toList_ofList]

/-- An operation id is its segments, each with the separator it was taken at behind it, and then
the text that its method is named for. -/
theorem callPath_spec (operationId : String) :
    ∃ slashed dotted remainder,
      callPath operationId = ⟨slashed ++ dotted, methodIdentifier remainder⟩ ∧
      operationId = terminated '/' slashed ++ terminated '.' dotted ++ remainder ∧
      ∀ segment ∈ slashed ++ dotted, IsSegment segment := by
  obtain ⟨slashed, dotted, remainder, decomposition⟩ := exists_isDecomposition operationId
  refine ⟨slashed, dotted, remainder, decomposition.callPath_eq, decomposition.whole, ?_⟩
  intro segment member
  have isSegment := isSegment_of_isCleanSegment (decomposition.clean segment member)
  rwa [String.ofList_toList] at isSegment

/-! ### All names -/

/-- The type identifier of a component can be used as it is exactly where its name has no dot. The
method name of an operation can be exactly where what the segments leave of its id has a letter
before any digit; and each segment is a plain word, which a line break may follow. -/
theorem identifiers_of_names {raw : String} (operationId : String)
    (component : ∀ character ∈ raw.toList, isComponentCharacter character = true)
    (filled : ∃ character ∈ raw.toList, isAlphanumeric character = true) :
    (IsIdentifier (typeIdentifier raw) ↔ '.' ∉ raw.toList) ∧
    ∃ slashed dotted remainder,
      operationId = terminated '/' slashed ++ terminated '.' dotted ++ remainder ∧
      (callPath operationId).segments = slashed ++ dotted ∧
      (∀ segment ∈ slashed ++ dotted,
        IsSegment segment ∧ (IsPlainWord segment ↔ '\n' ∉ segment.toList)) ∧
      (IsIdentifier (callPath operationId).methodName ↔
        ∃ character, remainder.toList.find? isAlphanumeric = some character ∧
          isLetter character = true) := by
  refine ⟨isIdentifier_typeIdentifier_iff_of_component component filled, ?_⟩
  obtain ⟨slashed, dotted, remainder, path, together, segments⟩ := callPath_spec operationId
  refine ⟨slashed, dotted, remainder, together, by rw [path], fun segment member => ?_, ?_⟩
  · exact ⟨segments segment member, (segments segment member).isPlainWord_iff⟩
  · rw [path]
    exact isIdentifier_methodIdentifier_iff remainder

/-- A component of two words, and an operation in two namespaces. -/
theorem identifiers_of_names_getResources :
    IsIdentifier (typeIdentifier "user_profile") ∧
      ∃ slashed dotted remainder,
        "api/v1/getResources" = terminated '/' slashed ++ terminated '.' dotted ++ remainder ∧
        ["api", "v1"] = slashed ++ dotted ∧
        ∀ segment ∈ slashed ++ dotted, IsPlainWord segment := by
  have path : callPath "api/v1/getResources" = ⟨["api", "v1"], "getResources"⟩ := by decide
  obtain ⟨component, slashed, dotted, remainder, together, segments, each, -⟩ :=
    @identifiers_of_names "user_profile" "api/v1/getResources" (List.all_eq_true.1 (by decide))
      (List.any_eq_true.1 (by decide))
  rw [path] at segments
  refine ⟨component.2 (by decide), slashed, dotted, remainder, together, segments, ?_⟩
  intro segment member
  refine (each segment member).2.2 ?_
  rw [← segments] at member
  revert segment
  decide

/-- Names that are no identifiers: a component with a dot, an operation whose id goes on with a
digit or ends in a separator, and a segment with a line break behind it. -/
theorem not_isIdentifier_of_names :
    ((∀ character ∈ "a.b".toList, isComponentCharacter character = true) ∧
      ¬ IsIdentifier (typeIdentifier "a.b")) ∧
    ¬ IsIdentifier (callPath "2fa/verify").methodName ∧
    ¬ IsIdentifier (callPath "pets/").methodName ∧
    ((callPath "pets\n/list").segments = ["pets\n"] ∧ ¬ IsPlainWord "pets\n") := by
  refine ⟨⟨List.all_eq_true.1 ?_, ?_⟩, ?_⟩ <;> decide

end ClientModel.Naming
