/-
This file proves that texts between quotes are read as they were written. Every character is read
back from its escape, a character above the first plane from two of them; the main statement is that
the text as a whole is, up to the quote that closes it.
-/

import ClientModel.Json.Token
import ClientModel.Json.Writer
import Mathlib.Data.Nat.Basic

namespace ClientModel

/-! ### Digits in base sixteen -/

namespace Text

/-- Digits are read as the number they write. -/
theorem readHex?_hexDigits (width : Nat) {value : Nat} (small : value < Nat.pow 16 width) :
    readHex? (hexDigits width value) = some value := by
  induction width generalizing value with
  | zero =>
    obtain rfl : value = 0 := by simpa using small
    rfl
  | succ width inductionHypothesis =>
    have fewer : value / 16 < Nat.pow 16 width := by
      rw [Nat.div_lt_iff_lt_mul (by decide)]
      exact small
    have front := inductionHypothesis fewer
    rw [readHex?] at front ⊢
    rw [hexDigits, List.foldlM_append, front]
    simp only [List.foldlM_cons, List.foldlM_nil, hexValue?_hexDigit (Nat.mod_lt value (by decide)),
      Option.bind_eq_bind, Option.bind_some, Option.map_some, Option.pure_def, Option.some.injEq]
    omega

end Text

namespace Json

/-! ### Characters -/

section

variable (start position : Nat) {rest : List Char} (more : rest ≠ [])

include more

/-- A unit that stands alone is read from its escape. -/
theorem readText_escapedUnit {unit : Nat} (small : unit < 0x10000)
    (alone : isHighSurrogate unit = false) :
    readText start position none (escapedUnit unit ++ rest) =
      (readText start (position + 6) none rest).map (·.prepend [characterOfUnit unit]) := by
  have read := Text.readHex?_hexDigits 4 small
  have going : rest.isEmpty = false := by simpa using more
  simp only [escapedUnit, Text.hexDigits, List.nil_append, List.cons_append] at read ⊢
  simp [readText, read, going, alone]

/-- A pair of units is read from its two escapes. -/
theorem readText_escapedPair {high low : Nat} (smallHigh : high < 0x10000)
    (smallLow : low < 0x10000) (first : isHighSurrogate high = true)
    (second : isLowSurrogate low = true) :
    readText start position none (escapedUnit high ++ (escapedUnit low ++ rest)) =
      (readText start (position + 12) none rest).map (·.prepend [characterOfPair high low]) := by
  have readHigh := Text.readHex?_hexDigits 4 smallHigh
  have readLow := Text.readHex?_hexDigits 4 smallLow
  have going : rest.isEmpty = false := by simpa using more
  simp only [escapedUnit, Text.hexDigits, List.nil_append, List.cons_append] at readHigh readLow ⊢
  simp [readText, readHigh, readLow, going, first, second]

/-- A character is read from the escape of its code. -/
theorem readText_escapedCode (character : Char) :
    readText start position none (escapedCode character.toNat ++ rest) =
      (readText start (position + (escapedCode character.toNat).length) none rest).map
        (·.prepend [character]) := by
  have valid : character.toNat < 0xD800 ∨ 0xDFFF < character.toNat ∧ character.toNat < 0x110000 :=
    character.valid
  have code : Char.ofNat character.toNat = character := Char.ofNat_toNat character
  unfold escapedCode
  split
  · next small =>
    have alone :
        isHighSurrogate character.toNat = false ∧ isLowSurrogate character.toNat = false := by
      simp only [isHighSurrogate, isLowSurrogate, Bool.and_eq_false_iff, decide_eq_false_iff_not]
      omega
    rw [readText_escapedUnit start position more small alone.1, characterOfUnit, alone.1, alone.2,
      code]
    simp [escapedUnit, Text.length_hexDigits]
  · next large =>
    dsimp only
    have whole : characterOfPair (0xD800 + (character.toNat - 0x10000) / 0x400)
        (0xDC00 + (character.toNat - 0x10000) % 0x400) = character := by
      rw [characterOfPair, Nat.add_sub_cancel_left, Nat.add_sub_cancel_left, Nat.add_assoc,
        Nat.div_add_mod', Nat.add_sub_cancel' (by omega), code]
    have first : isHighSurrogate (0xD800 + (character.toNat - 0x10000) / 0x400) = true := by
      simp only [isHighSurrogate, Bool.and_eq_true, decide_eq_true_eq]
      omega
    have second : isLowSurrogate (0xDC00 + (character.toNat - 0x10000) % 0x400) = true := by
      simp only [isLowSurrogate, Bool.and_eq_true, decide_eq_true_eq]
      omega
    rw [List.append_assoc, readText_escapedPair start position more (by omega) (by omega) first
      second, whole]
    simp [escapedUnit, Text.length_hexDigits]

/-- A character is read as it was written. -/
theorem readText_writtenCharacter (asciiOnly : Bool) (character : Char) :
    readText start position none (writtenCharacter asciiOnly character ++ rest) =
      (readText start (position + (writtenCharacter asciiOnly character).length) none rest).map
        (·.prepend [character]) := by
  unfold writtenCharacter
  iterate 7
    split
    · next same =>
      rw [beq_iff_eq.1 same]
      exact readText_letter start position rfl
  split
  · exact readText_escapedCode start position more character
  · split
    · exact readText_escapedCode start position more character
    · simp only [beq_iff_eq] at *
      exact readText_plain start position ‹_› ‹_› ‹_›

end

/-! ### Texts -/

/-- A text is read up to the quote that closes it. -/
theorem readText_flatMap (start position : Nat) (asciiOnly : Bool) (characters rest : List Char) :
    readText start position none
        (characters.flatMap (writtenCharacter asciiOnly) ++ '"' :: rest) =
      .ok ⟨characters,
        position + (characters.flatMap (writtenCharacter asciiOnly)).length + 1⟩ := by
  induction characters generalizing position with
  | nil => rfl
  | cons character others inductionHypothesis =>
    rw [List.flatMap_cons, List.append_assoc, readText_writtenCharacter start position (by simp),
      inductionHypothesis, List.length_append, ← Nat.add_assoc]
    rfl

/-- A text between quotes is one token. -/
theorem tokenAt_writtenText (position : Nat) (asciiOnly : Bool) (characters rest : List Char) :
    tokenAt position '"'
        (characters.flatMap (writtenCharacter asciiOnly) ++ '"' :: rest) =
      (.text (String.ofList characters), (writtenText asciiOnly characters).length) := by
  have length : (writtenText asciiOnly characters).length =
      (characters.flatMap (writtenCharacter asciiOnly)).length + 2 := by
    simp [writtenText]
  simp only [tokenAt, readText_flatMap, length]
  congr 1
  omega

end Json

end ClientModel
