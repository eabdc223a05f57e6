/-
This file writes pointers: each key of a path behind a slash, with the slashes and tildes in it
escaped. The main statement is that the segments of a written pointer are the keys of its path, so
that following it is stepping from key to key.
-/

import ClientModel.Document.Pointer
import ClientModel.Types.Resolution

namespace ClientModel

namespace Pointer

/-! ### Escaping -/

/-- What a character of a key is written as. -/
def escapeCharacter (character : Char) : List Char :=
  if character == '~' then ['~', '0'] else if character == '/' then ['~', '1'] else [character]

/-- The segment that writes a key. -/
def escape (key : List Char) : List Char := key.flatMap escapeCharacter

theorem escape_tilde_cons (rest : List Char) :
    escape ('~' :: rest) = '~' :: '0' :: escape rest := rfl

theorem escape_slash_cons (rest : List Char) :
    escape ('/' :: rest) = '~' :: '1' :: escape rest := rfl

theorem escape_cons_of_ne {character : Char} (tilde : character ≠ '~') (slash : character ≠ '/')
    (rest : List Char) : escape (character :: rest) = character :: escape rest := by
  rw [escape, List.flatMap_cons, escapeCharacter, if_neg (by simpa using tilde),
    if_neg (by simpa using slash)]
  rfl

theorem replaceEscape_cons {digit replacement first : Char} (plain : first ≠ '~')
    (rest : List Char) :
    replaceEscape digit replacement (first :: rest) =
      first :: replaceEscape digit replacement rest := by
  cases rest with
  | nil => rfl
  | cons second others => simp [replaceEscape_cons_cons, plain]

theorem replaceEscape_escaped (digit replacement : Char) (rest : List Char) :
    replaceEscape digit replacement ('~' :: digit :: rest) =
      replacement :: replaceEscape digit replacement rest := by
  simp [replaceEscape_cons_cons]

/-- Another escape is left alone. -/
theorem replaceEscape_other {digit other : Char} (different : other ≠ digit)
    (plain : other ≠ '~') (replacement : Char) (rest : List Char) :
    replaceEscape digit replacement ('~' :: other :: rest) =
      '~' :: other :: replaceEscape digit replacement rest := by
  rw [← replaceEscape_cons plain]
  simp [replaceEscape_cons_cons, different]

/-- What the first pass leaves of a written key: its slashes, and its tildes escaped. -/
def escapeTildes (key : List Char) : List Char :=
  key.flatMap fun character => if character == '~' then ['~', '0'] else [character]

theorem replaceEscape_escape (key : List Char) :
    replaceEscape '1' '/' (escape key) = escapeTildes key := by
  induction key with
  | nil => rfl
  | cons character rest inductionHypothesis =>
    rw [escapeTildes, List.flatMap_cons, ← escapeTildes]
    by_cases tilde : character = '~'
    · subst tilde
      exact (replaceEscape_other (by decide) (by decide) _ _).trans
        (congrArg ('~' :: '0' :: ·) inductionHypothesis)
    · by_cases slash : character = '/'
      · subst slash
        exact (replaceEscape_escaped _ _ _).trans (congrArg ('/' :: ·) inductionHypothesis)
      · rw [escape_cons_of_ne tilde slash, replaceEscape_cons tilde, inductionHypothesis,
          if_neg (by simpa using tilde), List.singleton_append]

theorem replaceEscape_escapeTildes (key : List Char) :
    replaceEscape '0' '~' (escapeTildes key) = key := by
  induction key with
  | nil => rfl
  | cons character rest inductionHypothesis =>
    rw [escapeTildes, List.flatMap_cons, ← escapeTildes]
    by_cases tilde : character = '~'
    · subst tilde
      exact (replaceEscape_escaped _ _ _).trans (congrArg ('~' :: ·) inductionHypothesis)
    · simp only [beq_iff_eq, tilde, ↓reduceIte, List.singleton_append, replaceEscape_cons tilde,
        inductionHypothesis]

/-- A written key is read as it is. -/
theorem unescape_escape (key : List Char) : unescape (escape key) = key := by
  rw [unescape, replaceEscape_escape, replaceEscape_escapeTildes]

/-- No slash is left in a written key. -/
theorem slash_not_mem_escape (key : List Char) : '/' ∉ escape key := by
  rw [escape, List.mem_flatMap]
  rintro ⟨character, _, member⟩
  unfold escapeCharacter at member
  split at member
  · exact absurd member (by decide)
  · split at member
    · exact absurd member (by decide)
    · next slash => exact slash (beq_iff_eq.2 (List.mem_singleton.1 member).symm)

/-- Only a key without tildes and slashes is written as it is. -/
theorem escape_of_not_mem {key : List Char} (noTilde : '~' ∉ key) (noSlash : '/' ∉ key) :
    escape key = key := by
  induction key with
  | nil => rfl
  | cons character rest inductionHypothesis =>
    rw [List.mem_cons, not_or] at noTilde noSlash
    rw [escape_cons_of_ne (Ne.symm noTilde.1) (Ne.symm noSlash.1),
      inductionHypothesis noTilde.2 noSlash.2]

/-! ### Writing -/

/-- The segments of a pointer to the end of a path, each behind a slash. -/
def writeSegments (path : List String) : List Char :=
  path.flatMap fun key => '/' :: escape key.toList

/-- The pointer to the end of a path. -/
def write (path : List String) : String := String.ofList ('#' :: writeSegments path)

theorem writeSegments_append (path : List String) (key : String) :
    writeSegments (path ++ [key]) = writeSegments path ++ '/' :: escape key.toList := by
  rw [writeSegments, List.flatMap_append, List.flatMap_singleton]
  rfl

theorem splitOn_writeSegments (key : String) (path : List String) :
    Text.splitOn '/' (escape key.toList ++ writeSegments path) =
      (key :: path).map fun key => escape key.toList := by
  induction path generalizing key with
  | nil =>
    rw [writeSegments, List.flatMap_nil, List.append_nil,
      Text.splitOn_of_not_mem (slash_not_mem_escape _)]
    rfl
  | cons next rest inductionHypothesis =>
    rw [writeSegments, List.flatMap_cons, List.cons_append, ← writeSegments,
      Text.splitOn_append (slash_not_mem_escape _), inductionHypothesis]
    rfl

/-- The segments of a written pointer are the keys of its path. -/
theorem segments?_write (key : String) (path : List String) :
    segments? (write (key :: path)) = some (key :: path) := by
  have read (key : String) : String.ofList (unescape (escape key.toList)) = key := by
    rw [unescape_escape, String.ofList_toList]
  rw [segments?, write, writeSegments, List.flatMap_cons, ← writeSegments, String.toList_ofList]
  simp only [List.cons_append, splitOn_writeSegments, List.map_map, Function.comp_def, read,
    List.map_id']

/-- Following a written pointer is stepping from key to key. -/
theorem resolve_write (key : String) (path : List String) (root : Value) :
    resolve (write (key :: path)) root =
      (key :: path).foldlM (enter (write (key :: path))) root := by
  rw [resolve, segments?_write]

/-- A key of a map leads to its item. -/
theorem enter_of_get? (pointer : String) {current item : Value} {key : String}
    (found : current.entriesOrEmpty.get? key = some item) :
    enter pointer current key = .ok item := by
  cases opened : current.opened with
  | map entries =>
    have here : Entries.get? key entries = some item := by
      simpa [Value.entriesOrEmpty, Value.entries?, opened] using found
    rw [enter, opened]
    simp only [here]
  | scalar _ | list _ | set _ | pair _ _ | knot _ _ | again _ _ =>
    simp [Value.entriesOrEmpty, Value.entries?, opened, Entries.get?] at found

theorem foldlM_enter_cons (pointer : String) {current item : Value} {key : String}
    (found : current.entriesOrEmpty.get? key = some item) (path : List String) :
    (key :: path).foldlM (enter pointer) current = path.foldlM (enter pointer) item := by
  rw [List.foldlM_cons, enter_of_get? pointer found]
  rfl

/-- The last key of a path stands behind the last slash of its pointer. -/
theorem targetOf_write (path : List String) (key : String) :
    targetOf (write (path ++ [key])) = String.ofList (escape key.toList) := by
  rw [targetOf, write, writeSegments_append, String.toList_ofList, ← List.cons_append,
    Text.lastPart_append (slash_not_mem_escape _)]

end Pointer

end ClientModel
