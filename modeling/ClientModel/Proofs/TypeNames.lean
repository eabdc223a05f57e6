/-
This file reads a type identifier off the name of a schema in one pass: separators are left out,
and a letter behind one, or in front of all others, is raised. The chain of passes that makes the
identifier gives the same characters. The main statement says position by position which letters are
raised, and that the identifier of an identifier is the identifier itself.
-/

import ClientModel.Naming.Identifier

namespace ClientModel.Naming

/-! ### Letters -/

theorem isLowerLetter_iff (character : Char) :
    isLowerLetter character = true ↔ 97 ≤ character.toNat ∧ character.toNat ≤ 122 := by
  rw [isLowerLetter, Bool.and_eq_true, decide_eq_true_iff, decide_eq_true_iff]
  exact Iff.rfl

theorem isUpperLetter_iff (character : Char) :
    isUpperLetter character = true ↔ 65 ≤ character.toNat ∧ character.toNat ≤ 90 := by
  rw [isUpperLetter, Bool.and_eq_true, decide_eq_true_iff, decide_eq_true_iff]
  exact Iff.rfl

theorem upperLetter_of_not_isLowerLetter {character : Char}
    (other : isLowerLetter character = false) : upperLetter character = character := by
  simp [upperLetter, other]

theorem toNat_upperLetter {character : Char} (lower : isLowerLetter character = true) :
    (upperLetter character).toNat = character.toNat - 32 := by
  have bounds := (isLowerLetter_iff character).1 lower
  have valid : (character.toNat - 32).isValidChar := Or.inl (by omega)
  rw [upperLetter, if_pos lower, Char.ofNat, dif_pos valid]
  rfl

theorem isUpperLetter_upperLetter {character : Char} (lower : isLowerLetter character = true) :
    isUpperLetter (upperLetter character) = true := by
  have bounds := (isLowerLetter_iff character).1 lower
  rw [isUpperLetter_iff, toNat_upperLetter lower]
  omega

theorem isLowerLetter_of_isUpperLetter {character : Char}
    (upper : isUpperLetter character = true) : isLowerLetter character = false := by
  rw [Bool.eq_false_iff, Ne, isLowerLetter_iff]
  have range := (isUpperLetter_iff character).1 upper
  omega

/-- A letter is raised once. -/
theorem upperLetter_upperLetter (character : Char) :
    upperLetter (upperLetter character) = upperLetter character := by
  cases lower : isLowerLetter character with
  | false => rw [upperLetter_of_not_isLowerLetter lower, upperLetter_of_not_isLowerLetter lower]
  | true =>
    exact upperLetter_of_not_isLowerLetter
      (isLowerLetter_of_isUpperLetter (isUpperLetter_upperLetter lower))

/-- A separator is no letter and no digit. -/
theorem isSeparator_of_isAlphanumeric {character : Char}
    (alphanumeric : isAlphanumeric character = true) : isSeparator character = false := by
  cases separator : isSeparator character with
  | false => rfl
  | true =>
    rcases (Bool.or_eq_true _ _).mp separator with dash | underscore
    · rw [beq_iff_eq.1 dash] at alphanumeric
      exact absurd alphanumeric (by decide)
    · rw [beq_iff_eq.1 underscore] at alphanumeric
      exact absurd alphanumeric (by decide)

theorem isAlphanumeric_of_isLowerLetter {character : Char}
    (lower : isLowerLetter character = true) : isAlphanumeric character = true := by
  simp [isAlphanumeric, isLetter, lower]

/-- What is raised is no separator either. -/
theorem isSeparator_upperLetter {character : Char}
    (alphanumeric : isAlphanumeric character = true) :
    isSeparator (upperLetter character) = false := by
  cases lower : isLowerLetter character with
  | false =>
    rw [upperLetter_of_not_isLowerLetter lower]
    exact isSeparator_of_isAlphanumeric alphanumeric
  | true =>
    have upper := isUpperLetter_upperLetter lower
    exact isSeparator_of_isAlphanumeric (by simp [isAlphanumeric, isLetter, upper])

/-! ### One pass -/

/-- The characters of a name that are no separators. A letter behind a separator is raised, and a
letter in front if the flag says so. -/
def wordCharacters : (raise : Bool) → List Char → List Char
  | _, [] => []
  | raise, character :: rest =>
    if isSeparator character then wordCharacters true rest
    else (if raise then upperLetter character else character) :: wordCharacters false rest

theorem wordCharacters_of_isSeparator {character : Char} (separator : isSeparator character = true)
    (raise : Bool) (rest : List Char) :
    wordCharacters raise (character :: rest) = wordCharacters true rest := by
  rw [wordCharacters, if_pos separator]

theorem wordCharacters_of_not_isSeparator {character : Char}
    (other : isSeparator character = false) (raise : Bool) (rest : List Char) :
    wordCharacters raise (character :: rest) =
      (if raise then upperLetter character else character) :: wordCharacters false rest := by
  rw [wordCharacters, if_neg (by simp [other])]

/-- What is no letter and no digit is not raised. -/
theorem wordCharacters_of_not_isAlphanumeric {character : Char}
    (other : isAlphanumeric character = false) (raise : Bool) (rest : List Char) :
    wordCharacters raise (character :: rest) = wordCharacters false (character :: rest) := by
  have notLower : isLowerLetter character = false := by
    cases lower : isLowerLetter character with
    | false => rfl
    | true => exact absurd (isAlphanumeric_of_isLowerLetter lower) (by simp [other])
  cases separator : isSeparator character with
  | true => simp only [wordCharacters_of_isSeparator separator]
  | false =>
    simp only [wordCharacters_of_not_isSeparator separator,
      upperLetter_of_not_isLowerLetter notLower, ite_self]

/-- Dropping separators in front of letters and digits, then all others, is one pass. -/
theorem filter_raiseAfterSeparators (characters : List Char) :
    (raiseAfterSeparators characters).filter (!isSeparator ·) =
      wordCharacters false characters := by
  fun_induction raiseAfterSeparators characters with
  | case1 => rfl
  | case2 character => cases separator : isSeparator character <;> simp [wordCharacters, separator]
  | case3 separator character rest both inductionHypothesis =>
    obtain ⟨isSeparator, alphanumeric⟩ := (Bool.and_eq_true _ _).mp both
    rw [wordCharacters_of_isSeparator isSeparator,
      wordCharacters_of_not_isSeparator (isSeparator_of_isAlphanumeric alphanumeric),
      List.filter_cons_of_pos (by simp [isSeparator_upperLetter alphanumeric]),
      inductionHypothesis]
    rfl
  | case4 separator character rest notBoth inductionHypothesis =>
    cases isSeparator : isSeparator separator with
    | false =>
      rw [wordCharacters_of_not_isSeparator isSeparator,
        List.filter_cons_of_pos (by simp [isSeparator]), inductionHypothesis]
      rfl
    | true =>
      have other : isAlphanumeric character = false := by simpa [isSeparator] using notBoth
      rw [wordCharacters_of_isSeparator isSeparator, wordCharacters_of_not_isAlphanumeric other,
        List.filter_cons_of_neg (by simp [isSeparator]), inductionHypothesis]

/-- Raising the first character makes up for not having raised it. -/
theorem raiseFirst_wordCharacters (raise : Bool) (characters : List Char) :
    raiseFirst (wordCharacters raise characters) = wordCharacters true characters := by
  induction characters generalizing raise with
  | nil => rfl
  | cons character rest inductionHypothesis =>
    cases separator : isSeparator character with
    | true => simp only [wordCharacters_of_isSeparator separator, inductionHypothesis]
    | false =>
      simp only [wordCharacters_of_not_isSeparator separator, raiseFirst]
      cases raise <;> simp [upperLetter_upperLetter]

/-- A type identifier is what one pass leaves, guarded against a digit in front. -/
theorem typeCharacters_eq (characters : List Char) :
    typeCharacters characters = guardDigit (wordCharacters true characters) := by
  rw [typeCharacters, filter_raiseAfterSeparators, raiseFirst_wordCharacters]

/-! ### Positions -/

/-- Whether a letter behind a text is raised: only separators stand in front of it, or one stands
right in front of it. -/
def raisesBehind (front : List Char) : Bool :=
  front.all isSeparator || front.getLast?.any isSeparator

/-- The characters of a name that are no separators, each raised or not as its position says. -/
def keptCharacters (characters : List Char) : List Char :=
  (characters.zipIdx.filter (!isSeparator ·.1)).map fun placed =>
    if raisesBehind (characters.take placed.2) then upperLetter placed.1 else placed.1

theorem raisesBehind_append_singleton (front : List Char) (character : Char) :
    raisesBehind (front ++ [character]) = isSeparator character := by
  cases separator : isSeparator character <;> simp [raisesBehind, separator]

/-- What one pass does behind a text is what the positions behind it say. -/
theorem wordCharacters_eq_map_zipIdx (front characters : List Char) :
    wordCharacters (raisesBehind front) characters =
      ((characters.zipIdx front.length).filter (!isSeparator ·.1)).map fun placed =>
        if raisesBehind ((front ++ characters).take placed.2) then upperLetter placed.1
        else placed.1 := by
  induction characters generalizing front with
  | nil => rfl
  | cons character rest inductionHypothesis =>
    have further := inductionHypothesis (front ++ [character])
    rw [raisesBehind_append_singleton, List.length_append, List.length_singleton,
      List.append_assoc, List.singleton_append] at further
    cases separator : isSeparator character with
    | true =>
      rw [separator] at further
      rw [wordCharacters_of_isSeparator separator, List.zipIdx_cons,
        List.filter_cons_of_neg (by simp [separator]), further]
    | false =>
      rw [separator] at further
      rw [wordCharacters_of_not_isSeparator separator, List.zipIdx_cons,
        List.filter_cons_of_pos (by simp [separator]), List.map_cons, List.take_left' rfl,
        further]

theorem wordCharacters_true_eq (characters : List Char) :
    wordCharacters true characters = keptCharacters characters :=
  wordCharacters_eq_map_zipIdx [] characters

/-! ### Identifiers of identifiers -/

/-- Raising a character does not make it a separator. -/
theorem isSeparator_upperLetter_eq (character : Char) :
    isSeparator (upperLetter character) = isSeparator character := by
  cases lower : isLowerLetter character with
  | false => rw [upperLetter_of_not_isLowerLetter lower]
  | true =>
    have alphanumeric := isAlphanumeric_of_isLowerLetter lower
    rw [isSeparator_upperLetter alphanumeric, isSeparator_of_isAlphanumeric alphanumeric]

/-- No separator is left. -/
theorem isSeparator_of_mem_wordCharacters {raise : Bool} {characters : List Char}
    {character : Char} (member : character ∈ wordCharacters raise characters) :
    isSeparator character = false := by
  induction characters generalizing raise with
  | nil => cases member
  | cons first rest inductionHypothesis =>
    cases separator : isSeparator first with
    | true =>
      rw [wordCharacters_of_isSeparator separator] at member
      exact inductionHypothesis member
    | false =>
      rw [wordCharacters_of_not_isSeparator separator] at member
      rcases List.mem_cons.1 member with rfl | further
      · split
        · rw [isSeparator_upperLetter_eq, separator]
        · exact separator
      · exact inductionHypothesis further

/-- Behind a character that is kept, a text without separators stays as it is. -/
theorem wordCharacters_false_of_free {characters : List Char}
    (free : ∀ character ∈ characters, isSeparator character = false) :
    wordCharacters false characters = characters := by
  induction characters with
  | nil => rfl
  | cons character rest inductionHypothesis =>
    obtain ⟨here, others⟩ := List.forall_mem_cons.1 free
    rw [wordCharacters_of_not_isSeparator here, inductionHypothesis others]
    rfl

/-- A guard in front is left out again. -/
theorem wordCharacters_guardDigit (characters : List Char) :
    wordCharacters true (guardDigit characters) = wordCharacters true characters := by
  cases characters with
  | nil => rfl
  | cons character rest =>
    have underscore : isSeparator '_' = true := by decide
    rw [guardDigit]
    split
    · exact wordCharacters_of_isSeparator underscore true _
    · rfl

theorem typeCharacters_typeCharacters (characters : List Char) :
    typeCharacters (typeCharacters characters) = typeCharacters characters := by
  have free := fun character (member : character ∈ wordCharacters true characters) =>
    isSeparator_of_mem_wordCharacters member
  have again : wordCharacters true (wordCharacters true characters) =
      wordCharacters true characters := by
    rw [← raiseFirst_wordCharacters false, wordCharacters_false_of_free free,
      raiseFirst_wordCharacters]
  rw [typeCharacters_eq, typeCharacters_eq, wordCharacters_guardDigit, again]

/-! ### Guards -/

theorem isDigit_of_isLetter {character : Char} (letter : isLetter character = true) :
    Text.isDigit character = false := by
  have codes : ∀ code < 123, 65 ≤ code → Text.isDigit (Char.ofNat code) = false := by decide
  rw [isLetter, Bool.or_eq_true, isLowerLetter_iff, isUpperLetter_iff] at letter
  rw [← Char.ofNat_toNat character]
  exact codes _ (by omega) (by omega)

theorem isDigit_upperLetter (character : Char) :
    Text.isDigit (upperLetter character) = Text.isDigit character := by
  cases lower : isLowerLetter character with
  | false => rw [upperLetter_of_not_isLowerLetter lower]
  | true =>
    rw [isDigit_of_isLetter (by simp [isLetter, isUpperLetter_upperLetter lower]),
      isDigit_of_isLetter (by simp [isLetter, lower])]

/-- A guard stands in front exactly where the first character that is kept is a digit. -/
theorem guardDigit_wordCharacters (raise : Bool) (characters : List Char) :
    guardDigit (wordCharacters raise characters) =
      (if (characters.find? (!isSeparator ·)).any Text.isDigit then ['_'] else []) ++
        wordCharacters raise characters := by
  induction characters generalizing raise with
  | nil => rfl
  | cons character rest inductionHypothesis =>
    cases separator : isSeparator character with
    | true =>
      rw [wordCharacters_of_isSeparator separator, inductionHypothesis,
        List.find?_cons_of_neg (by simp [separator])]
    | false =>
      have same : Text.isDigit (if raise then upperLetter character else character) =
          Text.isDigit character := by
        cases raise
        · rfl
        · exact isDigit_upperLetter character
      rw [wordCharacters_of_not_isSeparator separator,
        List.find?_cons_of_pos (by simp [separator]), guardDigit, same, Option.any_some]
      split <;> rfl

/-- A type identifier has the characters of its name but the separators. Of these a letter is raised
exactly where it is the first or stands right behind a separator, and an underscore stands in front
exactly where the first is a digit. The identifier of an identifier is the identifier itself. -/
theorem typeIdentifier_eq_keptCharacters (raw : String) :
    (typeIdentifier raw).toList =
        (if (raw.toList.find? (!isSeparator ·)).any Text.isDigit then ['_'] else []) ++
          keptCharacters raw.toList ∧
      '_' ∉ keptCharacters raw.toList ∧ '-' ∉ (typeIdentifier raw).toList ∧
      typeIdentifier (typeIdentifier raw) = typeIdentifier raw := by
  have whole : (typeIdentifier raw).toList =
      (if (raw.toList.find? (!isSeparator ·)).any Text.isDigit then ['_'] else []) ++
        keptCharacters raw.toList := by
    rw [typeIdentifier, String.toList_ofList, typeCharacters_eq, guardDigit_wordCharacters,
      wordCharacters_true_eq]
  have free {character : Char} (separator : isSeparator character = true) :
      character ∉ keptCharacters raw.toList := by
    intro member
    rw [← wordCharacters_true_eq] at member
    rw [isSeparator_of_mem_wordCharacters member] at separator
    cases separator
  refine ⟨whole, free (by decide), ?_, ?_⟩
  · rw [whole, List.mem_append, not_or]
    refine ⟨?_, free (by decide)⟩
    split <;> decide
  · simp only [typeIdentifier, String.toList_ofList, typeCharacters_typeCharacters]

end ClientModel.Naming
