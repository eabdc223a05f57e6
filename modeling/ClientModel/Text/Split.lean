/-
This file cuts a text at a separator and joins it again. The main statements are that joining the
parts gives back the text, and that cutting gives back the parts that were joined if none of them
has a separator in it.
-/

namespace ClientModel.Text

/-- The parts of a text between the separators; a text without one is its own only part. -/
def splitOn (separator : Char) : List Char → List (List Char)
  | [] => [[]]
  | character :: rest =>
    if character == separator then [] :: splitOn separator rest
    else
      match splitOn separator rest with
      | [] => [[character]]
      | part :: parts => (character :: part) :: parts

/-- Parts with the separator between them. -/
def joinWith (separator : Char) : List (List Char) → List Char
  | [] => []
  | [part] => part
  | part :: parts => part ++ separator :: joinWith separator parts

/-- The last part of a text. -/
def lastPart (separator : Char) (characters : List Char) : List Char :=
  (characters.reverse.takeWhile (· != separator)).reverse

/-! ### Character by character -/

section

variable (separator : Char)

theorem splitOn_nil : splitOn separator [] = [[]] := rfl

/-- A separator ends an empty part. -/
theorem splitOn_cons_self (rest : List Char) :
    splitOn separator (separator :: rest) = [] :: splitOn separator rest :=
  if_pos (beq_self_eq_true separator)

/-- A text has at least one part. -/
theorem splitOn_ne_nil (characters : List Char) : splitOn separator characters ≠ [] := by
  cases characters with
  | nil => exact List.cons_ne_nil _ _
  | cons character rest =>
    unfold splitOn
    split
    · simp
    · split <;> simp

/-- Any other character goes in front of the first part. -/
theorem splitOn_cons_of_ne {character : Char} (apart : character ≠ separator)
    (rest : List Char) : ∃ part parts, splitOn separator rest = part :: parts ∧
      splitOn separator (character :: rest) = (character :: part) :: parts := by
  obtain ⟨part, parts, split⟩ := List.exists_cons_of_ne_nil (splitOn_ne_nil separator rest)
  exact ⟨part, parts, split, by simp [splitOn, apart, split]⟩

theorem joinWith_singleton (part : List Char) : joinWith separator [part] = part := rfl

theorem joinWith_cons_cons (part next : List Char) (rest : List (List Char)) :
    joinWith separator (part :: next :: rest) =
      part ++ separator :: joinWith separator (next :: rest) := rfl

/-- A character in front of the first part stands in front of the joined text. -/
theorem joinWith_cons_left (character : Char) (part : List Char) (parts : List (List Char)) :
    joinWith separator ((character :: part) :: parts) =
      character :: joinWith separator (part :: parts) := by
  cases parts <;> rfl

end

/-! ### Parts and texts -/

/-- Joining the parts gives back the text. -/
theorem joinWith_splitOn (separator : Char) (characters : List Char) :
    joinWith separator (splitOn separator characters) = characters := by
  induction characters with
  | nil => rfl
  | cons character rest inductionHypothesis =>
    by_cases same : character = separator
    · obtain ⟨part, parts, split⟩ := List.exists_cons_of_ne_nil (splitOn_ne_nil separator rest)
      rw [same, splitOn_cons_self, split, joinWith_cons_cons, ← split, inductionHypothesis,
        List.nil_append]
    · obtain ⟨part, parts, split, whole⟩ := splitOn_cons_of_ne separator same rest
      rw [whole, joinWith_cons_left, ← split, inductionHypothesis]

/-- A text without the separator is its own only part. -/
theorem splitOn_of_not_mem {separator : Char} {characters : List Char}
    (free : separator ∉ characters) : splitOn separator characters = [characters] := by
  induction characters with
  | nil => rfl
  | cons character rest inductionHypothesis =>
    rw [List.mem_cons, not_or] at free
    obtain ⟨part, parts, split, whole⟩ := splitOn_cons_of_ne separator (Ne.symm free.1) rest
    obtain ⟨rfl, rfl⟩ := List.cons.inj (split.symm.trans (inductionHypothesis free.2))
    exact whole

/-- A separator divides the parts in front of it from those behind it. -/
theorem splitOn_append_separator (separator : Char) (front back : List Char) :
    splitOn separator (front ++ separator :: back) =
      splitOn separator front ++ splitOn separator back := by
  induction front with
  | nil => exact splitOn_cons_self separator back
  | cons character rest inductionHypothesis =>
    rw [List.cons_append]
    by_cases same : character = separator
    · rw [same, splitOn_cons_self, splitOn_cons_self, inductionHypothesis, List.cons_append]
    · obtain ⟨part, parts, split, whole⟩ := splitOn_cons_of_ne separator same rest
      obtain ⟨part', parts', split', whole'⟩ :=
        splitOn_cons_of_ne separator same (rest ++ separator :: back)
      rw [inductionHypothesis, split, List.cons_append] at split'
      obtain ⟨rfl, rfl⟩ := List.cons.inj split'
      rw [whole, whole', List.cons_append]

/-- What stands in front of the first separator is the first part. -/
theorem splitOn_append {separator : Char} {part : List Char} (free : separator ∉ part)
    (rest : List Char) :
    splitOn separator (part ++ separator :: rest) = part :: splitOn separator rest := by
  rw [splitOn_append_separator, splitOn_of_not_mem free, List.singleton_append]

/-- No part of a text has a separator in it. -/
theorem notMem_of_mem_splitOn {separator : Char} {characters part : List Char}
    (member : part ∈ splitOn separator characters) : separator ∉ part := by
  induction characters generalizing part with
  | nil =>
    rw [List.mem_singleton.1 member]
    exact List.not_mem_nil
  | cons character rest inductionHypothesis =>
    by_cases same : character = separator
    · rw [same, splitOn_cons_self] at member
      rcases List.mem_cons.1 member with rfl | further
      · exact List.not_mem_nil
      · exact inductionHypothesis further
    · obtain ⟨first, parts, split, whole⟩ := splitOn_cons_of_ne separator same rest
      rw [whole] at member
      rcases List.mem_cons.1 member with rfl | further
      · rw [List.mem_cons, not_or]
        exact ⟨Ne.symm same, inductionHypothesis (split ▸ List.mem_cons_self)⟩
      · exact inductionHypothesis (split ▸ List.mem_cons_of_mem _ further)

/-- Joined parts are the first of them, and each other behind a separator. -/
theorem joinWith_cons (separator : Char) (part : List Char) (parts : List (List Char)) :
    joinWith separator (part :: parts) =
      part ++ parts.flatMap fun other => separator :: other := by
  induction parts generalizing part with
  | nil => exact (List.append_nil part).symm
  | cons next rest inductionHypothesis =>
    rw [joinWith_cons_cons, inductionHypothesis, List.flatMap_cons, List.cons_append]

/-- Cutting gives back the parts that were joined. -/
theorem splitOn_joinWith {separator : Char} {parts : List (List Char)} (filled : parts ≠ [])
    (free : ∀ part ∈ parts, separator ∉ part) :
    splitOn separator (joinWith separator parts) = parts := by
  induction parts with
  | nil => exact absurd rfl filled
  | cons part rest inductionHypothesis =>
    obtain ⟨here, others⟩ := List.forall_mem_cons.1 free
    cases rest with
    | nil => exact splitOn_of_not_mem here
    | cons next rest =>
      rw [joinWith_cons_cons, splitOn_append here,
        inductionHypothesis (List.cons_ne_nil _ _) others]

/-! ### The first character that does not belong -/

section Stop

variable {belongs : Char → Bool} {front : List Char} {stop : Char}

theorem takeWhile_append_stop (inside : ∀ character ∈ front, belongs character = true)
    (outside : belongs stop = false) (rest : List Char) :
    (front ++ stop :: rest).takeWhile belongs = front := by
  rw [List.takeWhile_append_of_pos inside, List.takeWhile_cons_of_neg (by simp [outside]),
    List.append_nil]

theorem dropWhile_append_stop (inside : ∀ character ∈ front, belongs character = true)
    (outside : belongs stop = false) (rest : List Char) :
    (front ++ stop :: rest).dropWhile belongs = stop :: rest := by
  rw [List.dropWhile_append_of_pos inside, List.dropWhile_cons_of_neg (by simp [outside])]

end Stop

/-- What stands in front of the first separator. -/
theorem takeWhile_append_separator {separator : Char} {part : List Char}
    (free : separator ∉ part) (rest : List Char) :
    (part ++ separator :: rest).takeWhile (· != separator) = part := by
  refine takeWhile_append_stop (fun character member => ?_) (by simp) rest
  rw [bne_iff_ne]
  rintro rfl
  exact free member

/-- What stands behind the last separator is the last part. -/
theorem lastPart_append {separator : Char} {part : List Char} (free : separator ∉ part)
    (front : List Char) : lastPart separator (front ++ separator :: part) = part := by
  have reversed : separator ∉ part.reverse := by simpa using free
  rw [lastPart, List.reverse_append, List.reverse_cons, List.append_assoc, List.singleton_append,
    takeWhile_append_separator reversed, List.reverse_reverse]

end ClientModel.Text
