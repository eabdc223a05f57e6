/-
This file describes the method names. A method name has the letters and digits of its text in their
order, up to the case of letters. Between them stand underscores, never at an end and never two in a
row, and only in front of a digit or a letter in upper case; and it starts with no letter in upper
case. The passes that make a method name establish this one after another, and change nothing that
has it already. The main statement is that a method name is of this shape and is its own method
name.
-/

import ClientModel.Proofs.Identifiers
import Mathlib.Data.List.Chain

namespace ClientModel.Naming

/-! ### Letters and digits -/

/-- The letters and digits of a text, the letters in lower case. -/
def letters (characters : List Char) : List Char :=
  (characters.filter isAlphanumeric).map lowerLetter

theorem isUpperLetter_lowerLetter (character : Char) :
    isUpperLetter (lowerLetter character) = false := by
  cases upper : isUpperLetter character with
  | false => rw [lowerLetter_of_not_isUpperLetter upper, upper]
  | true =>
    have bounds := (isUpperLetter_iff character).1 upper
    rw [Bool.eq_false_iff, Ne, isUpperLetter_iff, toNat_lowerLetter upper]
    omega

theorem lowerLetter_lowerLetter (character : Char) :
    lowerLetter (lowerLetter character) = lowerLetter character :=
  lowerLetter_of_not_isUpperLetter (isUpperLetter_lowerLetter character)

/-- A letter that was raised is lowered to itself. -/
theorem lowerLetter_upperLetter {character : Char} (lower : isLowerLetter character = true) :
    lowerLetter (upperLetter character) = lowerLetter character := by
  have bounds := (isLowerLetter_iff character).1 lower
  have kept : isUpperLetter character = false := by
    rw [Bool.eq_false_iff, Ne, isUpperLetter_iff]
    omega
  rw [lowerLetter_of_not_isUpperLetter kept, ← Char.toNat_inj,
    toNat_lowerLetter (isUpperLetter_upperLetter lower), toNat_upperLetter lower]
  omega

theorem filter_markSeparators (characters : List Char) :
    (markSeparators characters).filter isAlphanumeric = characters.filter isAlphanumeric := by
  have mark : isAlphanumeric '_' = false := by decide
  induction characters with
  | nil => rfl
  | cons character rest inductionHypothesis =>
    rw [markSeparators, List.map_cons, ← markSeparators]
    cases alphanumeric : isAlphanumeric character <;>
      simp [alphanumeric, mark, inductionHypothesis]

theorem filter_collapseRuns (characters : List Char) :
    (collapseRuns characters).filter isAlphanumeric = characters.filter isAlphanumeric := by
  fun_induction collapseRuns characters with
  | case1 => rfl
  | case2 => rfl
  | case3 first second rest both inductionHypothesis =>
    have mark : isAlphanumeric '_' = false := by decide
    obtain ⟨isMark, _⟩ := (Bool.and_eq_true _ _).mp both
    obtain rfl := beq_iff_eq.1 isMark
    rw [inductionHypothesis, List.filter_cons_of_neg (a := '_') (by simp [mark])]
  | case4 first second rest notBoth inductionHypothesis =>
    rw [List.filter_cons, List.filter_cons, inductionHypothesis]

theorem filter_dropWhile_marks (characters : List Char) :
    (characters.dropWhile (· == '_')).filter isAlphanumeric =
      characters.filter isAlphanumeric := by
  induction characters with
  | nil => rfl
  | cons character rest inductionHypothesis =>
    rw [List.dropWhile_cons]
    split
    · next isMark =>
      have mark : isAlphanumeric '_' = false := by decide
      obtain rfl := beq_iff_eq.1 isMark
      rw [inductionHypothesis, List.filter_cons_of_neg (by simp [mark])]
    · rfl

theorem filter_withoutOuterMarks (characters : List Char) :
    (withoutOuterMarks characters).filter isAlphanumeric = characters.filter isAlphanumeric := by
  rw [withoutOuterMarks, List.filter_reverse, filter_dropWhile_marks, List.filter_reverse,
    List.reverse_reverse, filter_dropWhile_marks]

theorem letters_cons (character : Char) (rest : List Char) :
    letters (character :: rest) =
      (if isAlphanumeric character then [lowerLetter character] else []) ++ letters rest := by
  unfold letters
  rw [List.filter_cons]
  split <;> rfl

theorem letters_raiseAfterMarks (characters : List Char) :
    letters (raiseAfterMarks characters) = letters characters := by
  fun_induction raiseAfterMarks characters with
  | case1 => rfl
  | case2 => rfl
  | case3 mark character rest both inductionHypothesis =>
    have unlettered : isAlphanumeric '_' = false := by decide
    obtain ⟨isMark, lower⟩ := (Bool.and_eq_true _ _).mp both
    obtain rfl := beq_iff_eq.1 isMark
    rw [letters_cons, letters_cons, letters_cons, isAlphanumeric_upperLetter,
      lowerLetter_upperLetter lower, inductionHypothesis, unlettered]
    rfl
  | case4 mark character rest notBoth inductionHypothesis =>
    rw [letters_cons, inductionHypothesis, ← letters_cons]

theorem letters_lowerFirst (characters : List Char) :
    letters (lowerFirst characters) = letters characters := by
  cases characters with
  | nil => rfl
  | cons character rest =>
    rw [lowerFirst, letters_cons, letters_cons, isAlphanumeric_lowerLetter,
      lowerLetter_lowerLetter]

/-- A method name has the letters and digits of its text. -/
theorem letters_methodCharacters (characters : List Char) :
    letters (methodCharacters characters) = letters characters := by
  rw [methodCharacters, letters_lowerFirst, letters_raiseAfterMarks]
  unfold letters
  rw [filter_withoutOuterMarks, filter_collapseRuns, filter_markSeparators]

/-! ### Runs of underscores -/

/-- No two underscores stand in a row. -/
def IsCollapsed (characters : List Char) : Prop :=
  characters.IsChain fun character next => character = '_' → next ≠ '_'

theorem head?_collapseRuns (characters : List Char) :
    (collapseRuns characters).head? = characters.head? := by
  fun_induction collapseRuns characters with
  | case1 => rfl
  | case2 => rfl
  | case3 first second rest both inductionHypothesis =>
    obtain ⟨firstMark, secondMark⟩ := (Bool.and_eq_true _ _).mp both
    rw [inductionHypothesis, List.head?_cons, List.head?_cons, beq_iff_eq.1 firstMark,
      beq_iff_eq.1 secondMark]
  | case4 => rfl

theorem isCollapsed_collapseRuns (characters : List Char) :
    IsCollapsed (collapseRuns characters) := by
  fun_induction collapseRuns characters with
  | case1 => exact .nil
  | case2 => exact .singleton _
  | case3 first second rest both inductionHypothesis => exact inductionHypothesis
  | case4 first second rest notBoth inductionHypothesis =>
    refine List.isChain_cons.2 ⟨fun next here => ?_, inductionHypothesis⟩
    rw [head?_collapseRuns, List.head?_cons, Option.mem_some_iff] at here
    subst here
    rintro rfl rfl
    exact notBoth rfl

theorem collapseRuns_of_isCollapsed {characters : List Char}
    (collapsed : IsCollapsed characters) : collapseRuns characters = characters := by
  fun_induction collapseRuns characters with
  | case1 => rfl
  | case2 => rfl
  | case3 first second rest both inductionHypothesis =>
    obtain ⟨firstMark, secondMark⟩ := (Bool.and_eq_true _ _).mp both
    exact absurd (beq_iff_eq.1 secondMark)
      ((List.isChain_cons_cons.1 collapsed).1 (beq_iff_eq.1 firstMark))
  | case4 first second rest notBoth inductionHypothesis =>
    rw [inductionHypothesis (List.isChain_cons_cons.1 collapsed).2]

/-! ### Underscores at the ends -/

/-- What is left of a text without its outer underscores is a part of it. -/
theorem isInfix_withoutOuterMarks (characters : List Char) :
    withoutOuterMarks characters <:+: characters := by
  have inner : withoutOuterMarks characters <+: characters.dropWhile (· == '_') := by
    rw [withoutOuterMarks, ← List.reverse_suffix, List.reverse_reverse]
    exact List.dropWhile_suffix _
  exact inner.isInfix.trans (List.dropWhile_suffix _).isInfix

theorem head?_withoutOuterMarks_ne (characters : List Char) :
    (withoutOuterMarks characters).head? ≠ some '_' := by
  rw [head?_withoutOuterMarks]
  intro mark
  exact absurd (List.find?_some mark) (by decide)

theorem getLast?_withoutOuterMarks_ne (characters : List Char) :
    (withoutOuterMarks characters).getLast? ≠ some '_' := by
  rw [withoutOuterMarks, List.getLast?_reverse]
  intro mark
  have kept := List.head?_dropWhile_not (· == '_')
    (characters.dropWhile (· == '_')).reverse
  rw [mark] at kept
  exact absurd kept (by decide)

theorem dropWhile_marks_of_head? {characters : List Char}
    (unmarked : characters.head? ≠ some '_') :
    characters.dropWhile (· == '_') = characters := by
  cases characters with
  | nil => rfl
  | cons character rest =>
    refine List.dropWhile_cons_of_neg fun isMark => unmarked ?_
    rw [List.head?_cons, beq_iff_eq.1 isMark]

theorem withoutOuterMarks_of_ends {characters : List Char}
    (starts : characters.head? ≠ some '_') (ends : characters.getLast? ≠ some '_') :
    withoutOuterMarks characters = characters := by
  rw [← List.head?_reverse] at ends
  rw [withoutOuterMarks, dropWhile_marks_of_head? starts, dropWhile_marks_of_head? ends,
    List.reverse_reverse]

/-! ### Underscores in front of letters -/

/-- What may stand behind a character of a method name. An underscore divides only where raising a
letter would not: in front of a digit, and in front of a letter that is in upper case already. -/
def Divides (character next : Char) : Prop :=
  character = '_' → Text.isAsciiDigit next = true ∨ isUpperLetter next = true

theorem isUpperLetter_or_of_isAlphanumeric {character : Char}
    (alphanumeric : isAlphanumeric character = true) (raised : isLowerLetter character = false) :
    Text.isAsciiDigit character = true ∨ isUpperLetter character = true := by
  simpa [isAlphanumeric, isLetter, raised, or_comm] using alphanumeric

theorem upperLetter_ne_mark {character : Char} (lower : isLowerLetter character = true) :
    upperLetter character ≠ '_' := by
  intro same
  have upper := isUpperLetter_upperLetter lower
  rw [same] at upper
  exact absurd upper (by decide)

theorem isChain_raiseAfterMarks {characters : List Char} (marked : IsMarked characters)
    (collapsed : IsCollapsed characters) : (raiseAfterMarks characters).IsChain Divides := by
  fun_induction raiseAfterMarks characters with
  | case1 => exact .nil
  | case2 => exact .singleton _
  | case3 mark character rest both inductionHypothesis =>
    obtain ⟨_, lower⟩ := (Bool.and_eq_true _ _).mp both
    refine List.isChain_cons.2 ⟨fun _ _ same => absurd same (upperLetter_ne_mark lower), ?_⟩
    refine inductionHypothesis (fun other member => marked other ?_) collapsed.tail.tail
    exact List.mem_cons_of_mem _ (List.mem_cons_of_mem _ member)
  | case4 mark character rest notBoth inductionHypothesis =>
    obtain ⟨apart, further⟩ := List.isChain_cons_cons.1 collapsed
    refine List.isChain_cons.2 ⟨fun next here isMark => ?_, inductionHypothesis
      (fun other member => marked other (List.mem_cons_of_mem _ member)) further⟩
    -- The next character is no underscore, so it is still first behind this one.
    have unmarked := apart isMark
    rw [head?_raiseAfterMarks (by simpa using unmarked), List.head?_cons,
      Option.mem_some_iff] at here
    subst here
    have kind := marked character (List.mem_cons_of_mem _ List.mem_cons_self)
    refine isUpperLetter_or_of_isAlphanumeric (kind.resolve_right unmarked) ?_
    simpa [isMark] using notBoth

theorem getLast?_raiseAfterMarks_ne {characters : List Char}
    (ends : characters.getLast? ≠ some '_') :
    (raiseAfterMarks characters).getLast? ≠ some '_' := by
  fun_induction raiseAfterMarks characters with
  | case1 => exact ends
  | case2 => exact ends
  | case3 mark character rest both inductionHypothesis =>
    obtain ⟨_, lower⟩ := (Bool.and_eq_true _ _).mp both
    cases rest with
    | nil => simpa [raiseAfterMarks] using upperLetter_ne_mark lower
    | cons next rest =>
      have last := inductionHypothesis (by simpa using ends)
      rw [List.getLast?_cons]
      cases found : (raiseAfterMarks (next :: rest)).getLast? with
      | none => simpa using upperLetter_ne_mark lower
      | some final =>
        rw [found] at last
        simpa using last
  | case4 mark character rest notBoth inductionHypothesis =>
    have last := inductionHypothesis (by simpa using ends)
    have filled : raiseAfterMarks (character :: rest) ≠ [] := by
      cases rest with
      | nil => simp [raiseAfterMarks]
      | cons => unfold raiseAfterMarks; split <;> simp
    obtain ⟨first, others, same⟩ := List.exists_cons_of_ne_nil filled
    rw [same] at last ⊢
    simpa using last

theorem raiseAfterMarks_of_isChain {characters : List Char}
    (divided : characters.IsChain Divides) : raiseAfterMarks characters = characters := by
  fun_induction raiseAfterMarks characters with
  | case1 => rfl
  | case2 => rfl
  | case3 mark character rest both inductionHypothesis =>
    obtain ⟨isMark, lower⟩ := (Bool.and_eq_true _ _).mp both
    rw [isLowerLetter_iff] at lower
    rcases (List.isChain_cons_cons.1 divided).1 (beq_iff_eq.1 isMark) with digit | upper
    · simp only [Text.isAsciiDigit, Bool.and_eq_true, decide_eq_true_eq] at digit
      have most : character.toNat ≤ 57 := digit.2
      omega
    · rw [isUpperLetter_iff] at upper
      omega
  | case4 mark character rest notBoth inductionHypothesis =>
    rw [inductionHypothesis (List.isChain_cons_cons.1 divided).2]

/-! ### The shape of a method name -/

/-- Letters and digits, with underscores where they divide, and no capital in front. -/
structure IsCamelCase (characters : List Char) : Prop where
  marked : IsMarked characters
  starts : characters.head? ≠ some '_'
  ends : characters.getLast? ≠ some '_'
  divided : characters.IsChain Divides
  lowered : ∀ first ∈ characters.head?, isUpperLetter first = false

namespace IsCamelCase

variable {characters : List Char} (camelCase : IsCamelCase characters)

include camelCase

/-- Behind an underscore the name goes on, with a digit or a letter in upper case. -/
theorem exists_next {front back : List Char} (split : characters = front ++ '_' :: back) :
    ∃ next rest, back = next :: rest ∧
      (Text.isAsciiDigit next = true ∨ isUpperLetter next = true) := by
  subst split
  cases back with
  | nil => exact absurd (List.getLast?_concat ..) camelCase.ends
  | cons next rest =>
    have divides := List.isChain_iff_forall_rel_of_append_cons_cons.1 camelCase.divided rfl
    exact ⟨next, rest, rfl, divides rfl⟩

theorem not_run : ¬['_', '_'] <:+: characters := by
  rintro ⟨front, back, split⟩
  have whole : characters = front ++ '_' :: '_' :: back := by
    rw [← split]
    simp
  obtain ⟨next, rest, same, divides⟩ := camelCase.exists_next whole
  rw [← (List.cons.inj same).1] at divides
  exact absurd divides (by decide)

theorem isCollapsed : IsCollapsed characters := by
  refine camelCase.divided.imp fun character next divides isMark => ?_
  rintro rfl
  exact absurd (divides isMark) (by decide)

theorem markSeparators_eq : markSeparators characters = characters := by
  refine (List.map_congr_left fun character member => ?_).trans (List.map_id characters)
  rcases camelCase.marked character member with alphanumeric | rfl
  · exact if_pos alphanumeric
  · rfl

/-- A text of this shape is its own method name. -/
theorem methodCharacters_eq_self : methodCharacters characters = characters := by
  have lowers : lowerFirst characters = characters := by
    cases characters with
    | nil => rfl
    | cons first rest =>
      rw [lowerFirst, lowerLetter_of_not_isUpperLetter (camelCase.lowered first rfl)]
  rw [methodCharacters, camelCase.markSeparators_eq,
    collapseRuns_of_isCollapsed camelCase.isCollapsed,
    withoutOuterMarks_of_ends camelCase.starts camelCase.ends,
    raiseAfterMarks_of_isChain camelCase.divided, lowers]

end IsCamelCase

/-- Lowering the first letter completes the shape. -/
theorem isCamelCase_lowerFirst {characters : List Char} (marked : IsMarked characters)
    (starts : characters.head? ≠ some '_') (ends : characters.getLast? ≠ some '_')
    (divided : characters.IsChain Divides) : IsCamelCase (lowerFirst characters) := by
  cases characters with
  | nil => exact ⟨marked, starts, ends, divided, nofun⟩
  | cons first rest =>
    obtain ⟨here, others⟩ := List.forall_mem_cons.1 marked
    have alphanumeric : isAlphanumeric (lowerLetter first) = true := by
      rw [isAlphanumeric_lowerLetter]
      exact here.resolve_right fun same => starts (congrArg some same)
    have unmarked : lowerLetter first ≠ '_' := by
      intro same
      rw [same] at alphanumeric
      exact absurd alphanumeric (by decide)
    refine ⟨List.forall_mem_cons.2 ⟨Or.inl alphanumeric, others⟩, ?_, ?_, ?_, ?_⟩
    · exact fun same => unmarked (Option.some.inj same)
    · cases rest with
      | nil => exact fun same => unmarked (Option.some.inj same)
      | cons => simpa [lowerFirst] using ends
    · refine List.isChain_cons.2 ⟨fun _ _ same => absurd same unmarked, ?_⟩
      exact divided.tail
    · rintro _ ⟨⟩
      exact isUpperLetter_lowerLetter first

theorem isCamelCase_methodCharacters (characters : List Char) :
    IsCamelCase (methodCharacters characters) := by
  have marked : IsMarked (withoutOuterMarks (collapseRuns (markSeparators characters))) :=
    fun character member => isMarked_markSeparators characters character
      (mem_of_mem_collapseRuns (mem_of_mem_withoutOuterMarks member))
  have collapsed : IsCollapsed (withoutOuterMarks (collapseRuns (markSeparators characters))) :=
    List.IsChain.infix (isCollapsed_collapseRuns _) (isInfix_withoutOuterMarks _)
  have starts := head?_withoutOuterMarks_ne (collapseRuns (markSeparators characters))
  refine isCamelCase_lowerFirst marked.raiseAfterMarks ?_ ?_
    (isChain_raiseAfterMarks marked collapsed)
  · rw [head?_raiseAfterMarks starts]
    exact starts
  · exact getLast?_raiseAfterMarks_ne (getLast?_withoutOuterMarks_ne _)

/-- The texts of this shape are the method names. -/
theorem methodCharacters_eq_self_iff (characters : List Char) :
    methodCharacters characters = characters ↔ IsCamelCase characters :=
  ⟨fun same => same ▸ isCamelCase_methodCharacters characters,
    fun camelCase => camelCase.methodCharacters_eq_self⟩

/-- A method name has the letters and digits of its text, up to the case of letters, and beside them
only underscores: none at an end, no two in a row, each in front of a digit or a letter in upper
case. It starts with no letter in upper case, and is its own method name. -/
theorem shape_methodIdentifier (raw : String) :
    letters (methodIdentifier raw).toList = letters raw.toList ∧
      IsMarked (methodIdentifier raw).toList ∧
      (methodIdentifier raw).toList.head? ≠ some '_' ∧
      (methodIdentifier raw).toList.getLast? ≠ some '_' ∧
      ¬['_', '_'] <:+: (methodIdentifier raw).toList ∧
      (∀ front back, (methodIdentifier raw).toList = front ++ '_' :: back →
        ∃ next rest, back = next :: rest ∧
          (Text.isAsciiDigit next = true ∨ isUpperLetter next = true)) ∧
      (∀ first ∈ (methodIdentifier raw).toList.head?, isUpperLetter first = false) ∧
      methodIdentifier (methodIdentifier raw) = methodIdentifier raw := by
  have camelCase := isCamelCase_methodCharacters raw.toList
  simp only [methodIdentifier, String.toList_ofList]
  exact ⟨letters_methodCharacters _, camelCase.marked, camelCase.starts, camelCase.ends,
    camelCase.not_run, fun _ _ => camelCase.exists_next, camelCase.lowered,
    congrArg String.ofList camelCase.methodCharacters_eq_self⟩

/-- The name of an operation whose address has a parameter with a number in its name. -/
theorem shape_methodIdentifier_userAddress :
    methodIdentifier "get_/users/id_2_x" = "getUsersId_2X" ∧
      (∃ next rest, "2X".toList = next :: rest ∧
        (Text.isAsciiDigit next = true ∨ isUpperLetter next = true)) ∧
      isUpperLetter 'g' = false ∧ methodIdentifier "getUsersId_2X" = "getUsersId_2X" := by
  have name : methodIdentifier "get_/users/id_2_x" = "getUsersId_2X" := by decide
  have shape := shape_methodIdentifier "get_/users/id_2_x"
  rw [name] at shape
  obtain ⟨_, _, _, _, _, underscores, first, same⟩ := shape
  exact ⟨name, underscores "getUsersId".toList "2X".toList (by decide), first 'g' (by decide), same⟩

end ClientModel.Naming
