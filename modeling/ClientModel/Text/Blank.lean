/-
This file says which characters count as blank and removes them from the ends of a text. The
class is the one Unicode gives by bidirectional type and category: the separators of words and
of lines, the four information separators U+001C to U+001F included. A zero-width space and a
byte-order mark are not in it.
-/

namespace ClientModel.Text

/-! ### The class -/

/-- A separator of words or of lines. -/
def isBlank (character : Char) : Bool :=
  let code := character.toNat
  (0x09 ≤ code && code ≤ 0x0D) || (0x1C ≤ code && code ≤ 0x20) || code == 0x85 || code == 0xA0 ||
    code == 0x1680 || (0x2000 ≤ code && code ≤ 0x200A) || code == 0x2028 || code == 0x2029 ||
    code == 0x202F || code == 0x205F || code == 0x3000

/-- Every character the core library calls whitespace is blank. -/
theorem isBlank_of_isWhitespace {character : Char} (white : character.isWhitespace = true) :
    isBlank character = true := by
  simp only [Char.isWhitespace, Bool.or_eq_true, decide_eq_true_eq] at white
  rcases white with ((same | same) | same) | same <;> subst same <;> decide

/-! ### Removing blanks at the ends -/

/-- Removes blanks from the end. -/
def trimEnd (characters : List Char) : List Char :=
  (characters.reverse.dropWhile isBlank).reverse

/-- Removes blanks from both ends. -/
def trim (characters : List Char) : List Char :=
  trimEnd (characters.dropWhile isBlank)

theorem dropWhile_isBlank_of_head? {characters : List Char}
    (starts : ∀ first ∈ characters.head?, isBlank first = false) :
    characters.dropWhile isBlank = characters := by
  cases characters with
  | nil => rfl
  | cons first rest =>
    have kept : isBlank first = false := starts first rfl
    exact List.dropWhile_cons_of_neg (by simp [kept])

/-- A text without blanks at its ends is left as it is. -/
theorem trim_of_ends {characters : List Char}
    (starts : ∀ first ∈ characters.head?, isBlank first = false)
    (ends : ∀ last ∈ characters.getLast?, isBlank last = false) : trim characters = characters := by
  rw [← List.head?_reverse] at ends
  rw [trim, trimEnd, dropWhile_isBlank_of_head? starts, dropWhile_isBlank_of_head? ends,
    List.reverse_reverse]

/-- A blank behind a text is removed. -/
theorem trim_concat_of_isBlank {last : Char} (blank : isBlank last = true)
    (characters : List Char) : trim (characters ++ [last]) = trim characters := by
  have atEnd (front : List Char) : trimEnd (front ++ [last]) = trimEnd front := by
    simp [trimEnd, blank]
  rw [trim, trim, List.dropWhile_append]
  split
  · next empty => simp [List.isEmpty_iff.1 empty, blank]
  · exact atEnd _

/-- No blank is left at the end. -/
theorem isBlank_of_getLast?_trim {characters : List Char} {last : Char}
    (ends : last ∈ (trim characters).getLast?) : isBlank last = false := by
  rw [trim, trimEnd, List.getLast?_reverse, Option.mem_def] at ends
  have kept := List.head?_dropWhile_not isBlank (characters.dropWhile isBlank).reverse
  rw [ends] at kept
  exact kept

/-- A text of blanks alone, or no text at all. -/
def isBlankText (text : String) : Bool :=
  text.toList.all isBlank

/-- `trim` on strings. -/
def trimmed (text : String) : String :=
  String.ofList (trim text.toList)

theorem trim_toList_of_trimmed {text : String} (same : trimmed text = text) :
    trim text.toList = text.toList := by
  simpa [trimmed] using congrArg String.toList same

end ClientModel.Text
