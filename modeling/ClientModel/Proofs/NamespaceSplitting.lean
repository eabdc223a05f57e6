/-
This file says how an operation id is split into namespaces. As long as the part in front of the
next separator is clean, it is taken off as a namespace, and what is left is split again; a dot is a
separator only where no slash is left. The main statement is that this takes as many namespaces as
can be taken, that there is one way to do so, and that it goes part by part: a word in front of an
id is one more namespace in front of those of the id.
-/

import ClientModel.Proofs.Words

namespace ClientModel.Naming

/-! ### Separators -/

/-- The separator at which an id is split next. -/
def nextSeparator? (characters : List Char) : Option Char :=
  if '/' ∈ characters then some '/' else if '.' ∈ characters then some '.' else none

/-- No namespace can be taken off: there is no separator, or the part in front of the first one is
not clean. -/
def IsSettled (characters : List Char) : Prop :=
  ∀ separator, nextSeparator? characters = some separator →
    isCleanSegment (characters.takeWhile (· != separator)) = false

theorem nextSeparator?_of_slash {characters : List Char} (slashed : '/' ∈ characters) :
    nextSeparator? characters = some '/' :=
  if_pos slashed

theorem nextSeparator?_of_dot {characters : List Char} (unslashed : '/' ∉ characters)
    (dotted : '.' ∈ characters) : nextSeparator? characters = some '.' := by
  rw [nextSeparator?, if_neg unslashed, if_pos dotted]

theorem nextSeparator?_eq_some {characters : List Char} {separator : Char}
    (next : nextSeparator? characters = some separator) :
    separator ∈ characters ∧
      (separator = '/' ∨ separator = '.' ∧ '/' ∉ characters) := by
  unfold nextSeparator? at next
  split at next
  · next slashed =>
    obtain rfl := Option.some.inj next
    exact ⟨slashed, Or.inl rfl⟩
  · next unslashed =>
    split at next
    · next dotted =>
      obtain rfl := Option.some.inj next
      exact ⟨dotted, Or.inr ⟨rfl, unslashed⟩⟩
    · cases next

/-- A clean part has only letters and digits, and perhaps a line break at its end. -/
theorem notMem_of_isCleanSegment {segment : List Char} (clean : isCleanSegment segment = true)
    {character : Char} (other : isAlphanumeric character = false) (inLine : character ≠ '\n') :
    character ∉ segment := by
  have letter : isLetter character = false := by
    rw [isAlphanumeric, Bool.or_eq_false_iff] at other
    exact other.1
  rcases isWord_or_of_isWordOf clean with word | ⟨front, word, rfl⟩
  · exact word.not_mem letter other
  · rw [List.mem_append, List.mem_singleton, not_or]
    exact ⟨word.not_mem letter other, inLine⟩

/-! ### Taking one namespace -/

section

variable {separator : Char} {part : List Char} (free : separator ∉ part) (rest : List Char)

theorem takeAt_of_not_mem {characters : List Char} (free : separator ∉ characters) :
    takeAt separator characters = ([], characters) := by
  rw [takeAt, Text.splitOn_of_not_mem free]
  rfl

include free

theorem takeAt_of_clean (clean : isCleanSegment part = true) :
    takeAt separator (part ++ separator :: rest) =
      (part :: (takeAt separator rest).1, (takeAt separator rest).2) := by
  obtain ⟨next, parts, same⟩ := List.exists_cons_of_ne_nil (Text.splitOn_ne_nil separator rest)
  simp only [takeAt, Text.splitOn_append free, same, takeSegments, clean, if_true]

theorem takeAt_of_not_clean (unclean : isCleanSegment part = false) :
    takeAt separator (part ++ separator :: rest) = ([], part ++ separator :: rest) := by
  obtain ⟨next, parts, same⟩ := List.exists_cons_of_ne_nil (Text.splitOn_ne_nil separator rest)
  have whole := Text.joinWith_splitOn separator (part ++ separator :: rest)
  rw [Text.splitOn_append free, same] at whole
  simp only [takeAt, Text.splitOn_append free, same, takeSegments, unclean, Bool.false_eq_true,
    if_false, whole]

end

/-- A clean part in front of the next separator is taken, and the rest is split. -/
theorem splitOperationId_of_clean {separator : Char} {part rest : List Char}
    (next : nextSeparator? (part ++ separator :: rest) = some separator)
    (free : separator ∉ part) (clean : isCleanSegment part = true) :
    splitOperationId (part ++ separator :: rest) =
      (part :: (splitOperationId rest).1, (splitOperationId rest).2) := by
  obtain ⟨_, rfl | ⟨rfl, unslashed⟩⟩ := nextSeparator?_eq_some next
  · rw [splitOperationId, splitOperationId, takeAt_of_clean free rest clean]
    dsimp only
    split <;> rfl
  · have unslashedRest : '/' ∉ rest := fun member =>
      unslashed (List.mem_append_right _ (List.mem_cons_of_mem _ member))
    rw [splitOperationId, splitOperationId, takeAt_of_not_mem unslashed,
      takeAt_of_not_mem unslashedRest]
    simp only [List.contains_iff_mem, unslashed, unslashedRest, if_false,
      takeAt_of_clean free rest clean, List.nil_append]

/-- Nothing is taken off a settled id. -/
theorem splitOperationId_of_isSettled {characters : List Char} (settled : IsSettled characters) :
    splitOperationId characters = ([], characters) := by
  have keeps {separator : Char} (next : nextSeparator? characters = some separator) :
      takeAt separator characters = ([], characters) := by
    obtain ⟨part, rest, rfl, free⟩ := List.eq_append_cons_of_mem (nextSeparator?_eq_some next).1
    have unclean := settled separator next
    rw [Text.takeWhile_append_separator free] at unclean
    exact takeAt_of_not_clean free rest unclean
  by_cases slashed : '/' ∈ characters
  · rw [splitOperationId, keeps (nextSeparator?_of_slash slashed)]
    simp only [List.contains_iff_mem, slashed, if_true]
  · have dots : takeAt '.' characters = ([], characters) := by
      by_cases dotted : '.' ∈ characters
      · exact keeps (nextSeparator?_of_dot slashed dotted)
      · exact takeAt_of_not_mem dotted
    rw [splitOperationId, takeAt_of_not_mem slashed]
    simp only [List.contains_iff_mem, slashed, if_false, dots, List.nil_append]

/-- An id that is not settled starts with a namespace. -/
theorem isSettled_or_exists (characters : List Char) :
    IsSettled characters ∨ ∃ separator part rest, characters = part ++ separator :: rest ∧
      nextSeparator? characters = some separator ∧ separator ∉ part ∧
      isCleanSegment part = true := by
  by_cases settled : IsSettled characters
  · exact Or.inl settled
  · simp only [IsSettled, not_forall, Bool.not_eq_false] at settled
    obtain ⟨separator, next, clean⟩ := settled
    obtain ⟨part, rest, rfl, free⟩ := List.eq_append_cons_of_mem (nextSeparator?_eq_some next).1
    rw [Text.takeWhile_append_separator free] at clean
    exact Or.inr ⟨separator, part, rest, rfl, next, free, clean⟩

/-! ### Decompositions -/

/-- Parts each with the separator behind it. -/
def terminated (separator : Char) (parts : List String) : String :=
  String.join (parts.map (· ++ String.singleton separator))

theorem terminated_cons (separator : Char) (part : String) (parts : List String) :
    terminated separator (part :: parts) =
      part ++ String.singleton separator ++ terminated separator parts := by
  refine String.toList_injective ?_
  simp [terminated]

/-- How an id is split: into clean namespaces with a slash behind each, clean ones with a dot behind
each, and a remainder of which none can be taken. Where dots are used no slash is left. -/
structure IsDecomposition (operationId : String) (slashed dotted : List String)
    (remainder : String) : Prop where
  whole : operationId = terminated '/' slashed ++ terminated '.' dotted ++ remainder
  dots : dotted ≠ [] → '/' ∉ (terminated '.' dotted ++ remainder).toList
  clean : ∀ segment ∈ slashed ++ dotted, isCleanSegment segment.toList = true
  settled : IsSettled remainder.toList

/-- A clean segment in front of the next separator is a namespace, and those of the rest follow. -/
theorem splitCall_of_clean {separator : Char} {segment rest : String}
    (next : nextSeparator? (segment.toList ++ separator :: rest.toList) = some separator)
    (clean : isCleanSegment segment.toList = true) :
    splitCall (segment ++ String.singleton separator ++ rest) =
      (segment :: (splitCall rest).1, (splitCall rest).2) := by
  have free : separator ∉ segment.toList := by
    obtain ⟨_, rfl | ⟨rfl, _⟩⟩ := nextSeparator?_eq_some next <;>
      exact notMem_of_isCleanSegment clean (by decide) (by decide)
  have whole : (segment ++ String.singleton separator ++ rest).toList =
      segment.toList ++ separator :: rest.toList := by simp
  rw [splitCall, whole, splitOperationId_of_clean next free clean]
  simp [splitCall]

theorem splitCall_of_isSettled {operationId : String} (settled : IsSettled operationId.toList) :
    splitCall operationId = ([], operationId) := by
  rw [splitCall, splitOperationId_of_isSettled settled]
  simp

theorem terminated_nil (separator : Char) : terminated separator [] = "" := rfl

namespace IsDecomposition

variable {operationId rest remainder : String} {slashed dotted : List String}

/-- There is one way to split an id. The recursion takes the namespaces off one by one, first those
with slashes, then those with dots. -/
theorem splitCall_eq (decomposition : IsDecomposition operationId slashed dotted remainder) :
    splitCall operationId = (slashed ++ dotted, remainder) := by
  obtain ⟨rfl, dots, clean, settled⟩ := decomposition
  induction slashed with
  | cons segment slashed inductionHypothesis =>
    obtain ⟨here, others⟩ := List.forall_mem_cons.1 clean
    have same : terminated '/' (segment :: slashed) ++ terminated '.' dotted ++ remainder =
        segment ++ String.singleton '/' ++
          (terminated '/' slashed ++ terminated '.' dotted ++ remainder) := by
      rw [terminated_cons]
      simp only [String.append_assoc]
    rw [same, splitCall_of_clean (nextSeparator?_of_slash (by simp)) here,
      inductionHypothesis others]
    rfl
  | nil =>
    rw [terminated_nil, String.empty_append, List.nil_append] at *
    induction dotted with
    | cons segment dotted inductionHypothesis =>
      obtain ⟨here, others⟩ := List.forall_mem_cons.1 clean
      have unslashed := dots (List.cons_ne_nil _ _)
      rw [terminated_cons, String.append_assoc] at unslashed ⊢
      have further : '/' ∉ (terminated '.' dotted ++ remainder).toList := fun member =>
        unslashed (by rw [String.toList_append]; exact List.mem_append_right _ member)
      rw [splitCall_of_clean (nextSeparator?_of_dot (by simpa using unslashed) (by simp)) here,
        inductionHypothesis (fun _ => further) others]
    | nil => rw [terminated_nil, String.empty_append, splitCall_of_isSettled settled]

theorem callPath_eq (decomposition : IsDecomposition operationId slashed dotted remainder) :
    callPath operationId = ⟨slashed ++ dotted, methodIdentifier remainder⟩ := by
  rw [callPath, decomposition.splitCall_eq]

section

variable (decomposition : IsDecomposition rest slashed dotted remainder) {segment : String}
  (clean : isCleanSegment segment.toList = true)

include decomposition clean

theorem cons_slash : IsDecomposition (segment ++ String.singleton '/' ++ rest)
    (segment :: slashed) dotted remainder where
  whole := by
    rw [decomposition.whole, terminated_cons]
    simp only [String.append_assoc]
  dots := decomposition.dots
  clean := List.forall_mem_cons.2 ⟨clean, decomposition.clean⟩
  settled := decomposition.settled

/-- A namespace with a dot behind it comes first only where there is no slash. -/
theorem cons_dot (unslashed : '/' ∉ rest.toList) :
    IsDecomposition (segment ++ String.singleton '.' ++ rest) [] (segment :: dotted) remainder := by
  have none : slashed = [] := by
    cases slashed with
    | nil => rfl
    | cons first others =>
      refine absurd ?_ unslashed
      rw [decomposition.whole, terminated_cons]
      simp
  subst none
  have same := decomposition.whole
  rw [terminated_nil, String.empty_append] at same
  have apart : '/' ∉ segment.toList := notMem_of_isCleanSegment clean (by decide) (by decide)
  refine ⟨?_, fun _ => ?_, List.forall_mem_cons.2 ⟨clean, decomposition.clean⟩,
    decomposition.settled⟩
  · rw [terminated_nil, String.empty_append, terminated_cons, same]
    simp only [String.append_assoc]
  · rw [terminated_cons, String.append_assoc, ← same]
    simpa using ⟨apart, unslashed⟩

end

end IsDecomposition

/-- Every id can be split. -/
theorem exists_isDecomposition (operationId : String) :
    ∃ slashed dotted remainder, IsDecomposition operationId slashed dotted remainder := by
  rcases isSettled_or_exists operationId.toList with
    settled | ⟨separator, part, rest, same, next, free, clean⟩
  · refine ⟨[], [], operationId, ?_, fun dots => absurd rfl dots, nofun, settled⟩
    rw [terminated_nil, terminated_nil, String.empty_append, String.empty_append]
  · have whole : operationId =
        String.ofList part ++ String.singleton separator ++ String.ofList rest :=
      String.toList_injective (by simp [same])
    obtain ⟨slashed, dotted, remainder, decomposition⟩ :=
      exists_isDecomposition (String.ofList rest)
    rw [← @String.toList_ofList part] at clean
    rw [whole]
    obtain ⟨_, rfl | ⟨rfl, unslashed⟩⟩ := nextSeparator?_eq_some next
    · exact ⟨_, _, _, decomposition.cons_slash clean⟩
    · rw [same, List.mem_append, List.mem_cons, not_or, not_or] at unslashed
      exact ⟨_, _, _, decomposition.cons_dot clean (by simpa using unslashed.2.2)⟩
termination_by operationId.length
decreasing_by
  rw [← String.length_toList, ← String.length_toList, same]
  simp only [String.toList_ofList, List.length_append, List.length_cons]
  omega

/-- An id is split into as many namespaces as can be taken, and there is one way to do so. A word in
front of it, behind which a slash stands or a dot where the id has no slash, is one more namespace
in front of those of the id, and changes nothing else. -/
theorem namespaces_of_operationId (operationId : String) :
    (∃ slashed dotted remainder, IsDecomposition operationId slashed dotted remainder) ∧
      (∀ slashed dotted remainder, IsDecomposition operationId slashed dotted remainder →
        callPath operationId = ⟨slashed ++ dotted, methodIdentifier remainder⟩) ∧
      ∀ word, IsPlainWord word →
        callPath (word ++ "/" ++ operationId) =
            ⟨word :: (callPath operationId).segments, (callPath operationId).methodName⟩ ∧
          ('/' ∉ operationId.toList → callPath (word ++ "." ++ operationId) =
            ⟨word :: (callPath operationId).segments, (callPath operationId).methodName⟩) := by
  refine ⟨exists_isDecomposition operationId, fun _ _ _ => IsDecomposition.callPath_eq, ?_⟩
  intro word isWord
  have clean : isCleanSegment word.toList = true :=
    isWordOf_of_isWord isWord (isWord.not_mem (by decide) (by decide))
  have apart : '/' ∉ word.toList := notMem_of_isCleanSegment clean (by decide) (by decide)
  have steps (separator : Char)
      (next : nextSeparator? (word.toList ++ separator :: operationId.toList) = some separator) :
      callPath (word ++ String.singleton separator ++ operationId) =
        ⟨word :: (callPath operationId).segments, (callPath operationId).methodName⟩ := by
    rw [callPath, callPath, splitCall_of_clean next clean]
  refine ⟨steps '/' (nextSeparator?_of_slash (by simp)), fun unslashed => ?_⟩
  exact steps '.' (nextSeparator?_of_dot (by simpa using ⟨apart, unslashed⟩) (by simp))

/-- An id with a slash and a dot, by itself and behind a word. -/
theorem namespaces_of_operationId_petsList :
    IsDecomposition "v1/pets.list" ["v1"] ["pets"] "list" ∧
      callPath "v1/pets.list" = ⟨["v1", "pets"], "list"⟩ ∧
      IsPlainWord "api" ∧ callPath "api/v1/pets.list" = ⟨["api", "v1", "pets"], "list"⟩ ∧
      '/' ∉ "pets.list".toList ∧ callPath "api.pets.list" = ⟨["api", "pets"], "list"⟩ := by
  have decomposition : IsDecomposition "v1/pets.list" ["v1"] ["pets"] "list" := by
    refine ⟨by decide, fun _ => by decide, by decide, fun separator next => ?_⟩
    have none : nextSeparator? "list".toList = none := by decide
    rw [none] at next
    cases next
  have word : IsPlainWord "api" := by decide
  have unslashed : '/' ∉ "pets.list".toList := by decide
  have slash := (namespaces_of_operationId "v1/pets.list").2.2 "api" word
  have dot := (namespaces_of_operationId "pets.list").2.2 "api" word
  have name : methodIdentifier "list" = "list" := by decide
  have path := (namespaces_of_operationId "v1/pets.list").2.1 _ _ _ decomposition
  have rest : callPath "pets.list" = ⟨["pets"], "list"⟩ := by decide
  rw [name] at path
  refine ⟨decomposition, path, word, slash.1.trans ?_, unslashed, (dot.2 unslashed).trans ?_⟩
  · rw [path]
    rfl
  · rw [rest]

end ClientModel.Naming
