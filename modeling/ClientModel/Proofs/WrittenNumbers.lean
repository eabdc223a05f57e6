/-
This file proves that numbers are read from JSON text as they were written. A numeral has digits
before its point, and may have digits behind it and an exponent; whatever does not go on with a
number may follow. The main statement is that a double of the format is read as itself, whether its
digits are laid out positionally or with an exponent.
-/

import ClientModel.Proofs.JsonText
import ClientModel.Proofs.ShortestDecimal

namespace ClientModel

/-! ### Digits -/

namespace Text

theorem naturalOf_append (front back : List Char) :
    naturalOf (front ++ back) = naturalOf front * 10 ^ back.length + naturalOf back := by
  have shifted (digits : List Char) (start : Nat) :
      digits.foldl (fun value digit => value * 10 + (digit.toNat - 48)) start =
        start * 10 ^ digits.length + naturalOf digits := by
    induction digits generalizing start with
    | nil => simp [naturalOf]
    | cons digit rest inductionHypothesis =>
      rw [naturalOf, List.foldl_cons, List.foldl_cons, inductionHypothesis,
        inductionHypothesis (0 * 10 + _), List.length_cons, Nat.pow_succ]
      ring
  rw [naturalOf, List.foldl_append, shifted]
  rfl

theorem naturalOf_replicate_zero (count : Nat) : naturalOf (List.replicate count '0') = 0 := by
  induction count with
  | zero => rfl
  | succ count inductionHypothesis =>
    rw [List.replicate_succ', naturalOf_append, inductionHypothesis]
    rfl

theorem naturalOf_toDigits (number : Nat) : naturalOf (Nat.toDigits 10 number) = number := by
  have same : naturalOf (Nat.toDigits 10 number) =
      Nat.ofDigitChars 10 (Nat.toDigits 10 number) 0 := by
    simp only [naturalOf, Nat.ofDigitChars, Nat.mul_comm]
    rfl
  rw [same, Nat.ofDigitChars_toDigits (by decide) (by decide)]

theorem isAsciiDigit_of_mem_toDigits {number : Nat} {character : Char}
    (member : character ∈ Nat.toDigits 10 number) : isAsciiDigit character = true :=
  Nat.isDigit_of_mem_toDigits (by decide) (by decide) member

/-- Digits whose number is as great as their count allows do not start with a zero. -/
theorem ne_zero_of_le_naturalOf {first : Char} {rest : List Char}
    (right : ∀ digit ∈ rest, isAsciiDigit digit = true)
    (great : 10 ^ rest.length ≤ naturalOf (first :: rest)) : first ≠ '0' := by
  rintro rfl
  have same : naturalOf ('0' :: rest) = naturalOf rest := rfl
  exact absurd (naturalOf_lt right le_rfl) (not_lt.2 (same ▸ great))

end Text

namespace Json

open Text

/-! ### What follows a number -/

/-- Whether a character can go on with a number. -/
def continuesNumber (character : Char) : Bool :=
  isAsciiDigit character || ['.', 'e', 'E'].contains character

/-- A text that does not go on with a number in front of it. -/
def EndsNumber (rest : List Char) : Prop :=
  ∀ character ∈ rest.head?, continuesNumber character = false

theorem endsNumber_nil : EndsNumber [] := nofun

theorem endsNumber_cons {character : Char} (stops : continuesNumber character = false)
    (rest : List Char) : EndsNumber (character :: rest) := by
  intro other same
  cases same
  exact stops

theorem takeWhile_isAsciiDigit_append {digits rest : List Char}
    (right : ∀ digit ∈ digits, isAsciiDigit digit = true)
    (stops : ∀ character ∈ rest.head?, isAsciiDigit character = false) :
    (digits ++ rest).takeWhile isAsciiDigit = digits := by
  rw [List.takeWhile_append_of_pos right]
  cases rest with
  | nil => exact List.append_nil digits
  | cons character rest =>
    have outside := stops character rfl
    rw [List.takeWhile_cons_of_neg (by simp [outside]), List.append_nil]

section

variable {rest : List Char} (ends : EndsNumber rest)

include ends

theorem EndsNumber.not_digit : ∀ character ∈ rest.head?, isAsciiDigit character = false :=
  fun character member => (Bool.or_eq_false_iff.1 (ends character member)).1

theorem EndsNumber.fractionDigits : fractionDigits rest = [] := by
  unfold Json.fractionDigits
  split
  · have stops := ends '.' rfl
    exact absurd stops (by decide)
  · rfl

theorem EndsNumber.exponentPart : exponentPart rest = none := by
  cases rest with
  | nil => rfl
  | cons character rest =>
    have stops := ends character rfl
    simp only [continuesNumber, Bool.or_eq_false_iff, List.contains_cons, List.contains_nil,
      beq_eq_false_iff_ne] at stops
    have small : (character == 'e' || character == 'E') = false := by
      simp [stops.2.2.1, stops.2.2.2.1]
    simp [Json.exponentPart, small]

end

/-! ### Numerals -/

/-- The parts of a numeral without its sign. -/
structure Numeral where
  whole : List Char
  fraction : List Char := []
  exponent : Option Int := none

namespace Numeral

/-- A point and the digits behind it, where there are any. -/
def fractionText (numeral : Numeral) : List Char :=
  if numeral.fraction.isEmpty then [] else '.' :: numeral.fraction

/-- A numeral as it is written. -/
def text (numeral : Numeral) : List Char :=
  numeral.whole ++ numeral.fractionText ++ (numeral.exponent.map Binary64.exponentText).getD []

/-- A numeral of digits that starts with a zero only where that is all before the point. -/
structure IsReadable (numeral : Numeral) : Prop where
  started : numeral.whole = ['0'] ∨
    ∃ first rest, numeral.whole = first :: rest ∧ first ≠ '0'
  whole : ∀ digit ∈ numeral.whole, isAsciiDigit digit = true
  fraction : ∀ digit ∈ numeral.fraction, isAsciiDigit digit = true

/-- What a numeral is read as. -/
def token (negative : Bool) (numeral : Numeral) : Token :=
  if numeral.fraction.isEmpty && numeral.exponent.isNone then
    if longestInteger < numeral.whole.length then .longInteger numeral.whole.length
    else
      let magnitude : Int := naturalOf numeral.whole
      .scalar (.int (if negative then -magnitude else magnitude))
  else
    .scalar (.float (Binary64.ofParts negative numeral.whole numeral.fraction
      (numeral.exponent.getD 0)))

end Numeral

/-- An exponent is read as it was written. -/
theorem exponentPart_exponentText {rest : List Char} (ends : EndsNumber rest) (exponent : Int) :
    ∃ negative digits,
      exponentPart (Binary64.exponentText exponent ++ rest) =
          some (negative, digits, (Binary64.exponentText exponent).length) ∧
        (if negative then -(naturalOf digits : Int) else naturalOf digits) = exponent := by
  let digits := (if exponent.natAbs < 10 then ['0'] else []) ++ Nat.toDigits 10 exponent.natAbs
  let sign := if exponent < 0 then '-' else '+'
  have written : Binary64.exponentText exponent = 'e' :: sign :: digits := rfl
  have right : ∀ digit ∈ digits, isAsciiDigit digit = true := by
    intro digit member
    rcases List.mem_append.1 member with front | back
    · split at front
      · rw [List.mem_singleton.1 front]
        rfl
      · cases front
    · exact isAsciiDigit_of_mem_toDigits back
  have nonempty : digits.isEmpty = false := by
    simp [digits, Nat.toDigits_ne_nil]
  have magnitude : naturalOf digits = exponent.natAbs := by
    rw [naturalOf_append, naturalOf_toDigits]
    split <;> simp [naturalOf]
  have split : splitSign (sign :: (digits ++ rest)) = (decide (exponent < 0), digits ++ rest) := by
    unfold sign
    by_cases below : exponent < 0 <;> simp [splitSign, below]
  refine ⟨decide (exponent < 0), digits, ?_, ?_⟩
  · rw [written]
    simp only [List.cons_append, exponentPart, beq_self_eq_true, Bool.true_or, ↓reduceIte, split,
      takeWhile_isAsciiDigit_append right ends.not_digit, nonempty, Bool.false_eq_true,
      List.length_cons, List.length_append, Option.some.injEq, Prod.mk.injEq, true_and]
    omega
  · rw [magnitude]
    by_cases below : exponent < 0
    · rw [if_pos (decide_eq_true below)]
      omega
    · rw [if_neg (by simpa using below)]
      omega

/-- The exponent of a numeral and what follows it start with no digit and with no point. -/
theorem exponent_append_starts {rest : List Char} (ends : EndsNumber rest)
    (exponent : Option Int) :
    (∀ character ∈ ((exponent.map Binary64.exponentText).getD [] ++ rest).head?,
        isAsciiDigit character = false) ∧
      fractionDigits ((exponent.map Binary64.exponentText).getD [] ++ rest) = [] := by
  cases exponent with
  | none => exact ⟨ends.not_digit, ends.fractionDigits⟩
  | some exponent =>
    refine ⟨fun character same => ?_, rfl⟩
    cases same
    rfl

namespace Numeral

variable {numeral : Numeral} (readable : numeral.IsReadable) {back : List Char}
  (stops : ∀ character ∈ back.head?, isAsciiDigit character = false)

theorem length_fractionText (numeral : Numeral) :
    numeral.fractionText.length =
      if numeral.fraction.isEmpty then 0 else numeral.fraction.length + 1 := by
  unfold fractionText
  split <;> rfl

include readable stops

theorem wholeDigits_append :
    wholeDigits (numeral.whole ++ (numeral.fractionText ++ back)) = numeral.whole := by
  have stopsToo : ∀ character ∈ (numeral.fractionText ++ back).head?,
      isAsciiDigit character = false := by
    unfold fractionText
    split
    · exact stops
    · intro character same
      cases same
      rfl
  rcases readable.started with zero | ⟨first, others, whole, nonzero⟩
  · rw [zero]
    rfl
  · have taken := takeWhile_isAsciiDigit_append readable.whole stopsToo
    rw [whole] at taken ⊢
    unfold wholeDigits
    split
    · next same => exact absurd (List.cons.inj same).1 nonzero
    · exact taken

theorem fractionDigits_append (pointless : fractionDigits back = []) :
    fractionDigits (numeral.fractionText ++ back) = numeral.fraction := by
  unfold fractionText
  split
  · next none =>
    rw [List.isEmpty_iff.1 none]
    exact pointless
  · exact takeWhile_isAsciiDigit_append readable.fraction stops

end Numeral

/-- A numeral is read as its token, whatever follows it that does not go on with it. -/
theorem readNumber?_text {numeral : Numeral} (readable : numeral.IsReadable) {rest : List Char}
    (ends : EndsNumber rest) (negative : Bool) :
    readNumber? negative (numeral.text ++ rest) =
      some (numeral.token negative, numeral.text.length) := by
  obtain ⟨stops, pointless⟩ := exponent_append_starts ends numeral.exponent
  have nonempty : numeral.whole.isEmpty = false := by
    rcases readable.started with zero | ⟨first, others, whole, _⟩
    · rw [zero]
      rfl
    · rw [whole]
      rfl
  have cut : numeral.text ++ rest = numeral.whole ++ (numeral.fractionText ++
      ((numeral.exponent.map Binary64.exponentText).getD [] ++ rest)) := by
    simp only [Numeral.text, List.append_assoc]
  have whole := Numeral.wholeDigits_append readable stops
  have fraction := Numeral.fractionDigits_append readable stops pointless
  unfold readNumber?
  dsimp only
  rw [cut, whole, nonempty, if_neg Bool.false_ne_true, List.drop_left, fraction,
    ← Numeral.length_fractionText, List.drop_left]
  unfold Numeral.token Numeral.text
  cases numeral.exponent with
  | none =>
    have none : exponentPart (((none : Option Int).map Binary64.exponentText).getD [] ++ rest) =
        none := ends.exponentPart
    rw [none]
    cases isEmpty : numeral.fraction.isEmpty
    · simp
    · simp only [Bool.not_true, Bool.false_eq_true, ↓reduceIte, Bool.true_and, Option.isNone_none]
      split <;> simp [Numeral.fractionText, isEmpty]
  | some exponent =>
    obtain ⟨negativeExponent, digits, found, value⟩ := exponentPart_exponentText ends exponent
    simp only [Option.map_some, Option.getD_some] at found ⊢
    rw [found]
    simp [value, Nat.add_assoc]

/-! ### Words -/

/-- No word starts with a digit, nor with a minus before a digit. -/
theorem wordAt?_digit {digit : Char} (right : isAsciiDigit digit = true) (rest : List Char) :
    wordAt? (digit :: rest) = none ∧ wordAt? ('-' :: digit :: rest) = none := by
  have letters : ∀ letter ∈ ['n', 't', 'f', 'N', 'I', '-'], letter ≠ digit := by
    rintro letter member rfl
    have none : ['n', 't', 'f', 'N', 'I', '-'].all (fun letter => !isAsciiDigit letter) = true :=
      rfl
    simpa [right] using List.all_eq_true.1 none letter member
  simp only [List.forall_mem_cons] at letters
  have apart {characters : List Char}
      (each : ∀ word ∈ words, word.1.toList.isPrefixOf characters = false) :
      wordAt? characters = none := by
    rw [wordAt?, Option.map_eq_none_iff, List.find?_eq_none]
    intro word member
    rw [each word member]
    exact Bool.false_ne_true
  constructor <;> refine apart fun word member => ?_
  all_goals
    simp only [words, List.mem_cons, List.not_mem_nil, or_false] at member
    rcases member with rfl | rfl | rfl | rfl | rfl | rfl <;> simp [List.isPrefixOf, letters]

/-- A signed numeral is read as its token. -/
theorem plainTokenAt_text {numeral : Numeral} (readable : numeral.IsReadable) {rest : List Char}
    (ends : EndsNumber rest) (negative : Bool) :
    plainTokenAt (Binary64.signed negative numeral.text ++ rest) =
      (numeral.token negative, (Binary64.signed negative numeral.text).length) := by
  obtain ⟨first, others, start⟩ : ∃ first others, numeral.text = first :: others := by
    rcases readable.started with zero | ⟨first, others, whole, _⟩
    · exact ⟨'0', _, by rw [Numeral.text, zero]; rfl⟩
    · exact ⟨first, _, by rw [Numeral.text, whole]; rfl⟩
  have digit : isAsciiDigit first = true := by
    refine readable.whole first ?_
    have same : numeral.text.head? = numeral.whole.head? := by
      rcases readable.started with zero | ⟨first, others, whole, _⟩
      · rw [Numeral.text, zero]
        rfl
      · rw [Numeral.text, whole]
        rfl
    rw [start] at same
    exact List.mem_of_head? same.symm
  have words := wordAt?_digit digit (others ++ rest)
  have read := readNumber?_text readable ends negative
  rw [start, List.cons_append] at read
  cases negative
  · have unsigned : first ≠ '-' := by
      rintro rfl
      exact absurd digit (by decide)
    unfold plainTokenAt Binary64.signed
    simp only [Bool.false_eq_true, ↓reduceIte, start, List.cons_append]
    rw [words.1]
    dsimp only
    split
    · next same => exact absurd (List.cons.inj same).1 unsigned
    · rw [read]
      rfl
  · unfold plainTokenAt Binary64.signed
    simp only [↓reduceIte, start, List.cons_append]
    rw [words.2]
    dsimp only
    rw [read]
    rfl

/-! ### Integers -/

/-- The numeral of an integer. -/
def Numeral.ofNat (magnitude : Nat) : Numeral := ⟨Nat.toDigits 10 magnitude, [], none⟩

/-- Digits that are as many as a decimal says are the digits of its number. -/
theorem toDigits_bounds {number : Nat} (positive : 0 < number) :
    10 ^ ((Nat.toDigits 10 number).length - 1) ≤ number ∧
      number < 10 ^ (Nat.toDigits 10 number).length := by
  have some : 0 < (Nat.toDigits 10 number).length := Nat.length_toDigits_pos
  refine ⟨?_, (Nat.length_toDigits_le_iff (by decide) some).1 le_rfl⟩
  rcases Nat.eq_zero_or_pos ((Nat.toDigits 10 number).length - 1) with single | more
  · rw [single]
    exact positive
  · refine not_lt.1 fun less => ?_
    have shorter := (Nat.length_toDigits_le_iff (by decide) more).2 less
    omega

/-- The digits of a positive number start with another one than zero. -/
theorem exists_toDigits_eq_cons {number : Nat} (positive : 0 < number) :
    ∃ first rest, Nat.toDigits 10 number = first :: rest ∧ first ≠ '0' := by
  obtain ⟨first, rest, cut⟩ :=
    List.exists_cons_of_ne_nil (Nat.toDigits_ne_nil (n := number) (b := 10))
  have digits : ∀ digit ∈ rest, isAsciiDigit digit = true := fun digit member =>
    isAsciiDigit_of_mem_toDigits (cut ▸ List.mem_cons_of_mem _ member)
  refine ⟨first, rest, cut, ne_zero_of_le_naturalOf digits ?_⟩
  have least := (toDigits_bounds positive).1
  rw [cut, List.length_cons, Nat.add_sub_cancel] at least
  rw [← cut, naturalOf_toDigits]
  exact least

theorem Numeral.isReadable_ofNat (magnitude : Nat) : (Numeral.ofNat magnitude).IsReadable where
  started := by
    rcases Nat.eq_zero_or_pos magnitude with rfl | positive
    · exact Or.inl rfl
    · exact Or.inr (exists_toDigits_eq_cons positive)
  whole _ member := isAsciiDigit_of_mem_toDigits member
  fraction _ member := absurd member List.not_mem_nil

/-- An integer is written as a signed numeral. -/
theorem toList_toString_int (value : Int) :
    (toString value).toList =
      Binary64.signed (decide (value < 0)) (Numeral.ofNat value.natAbs).text := by
  have text : (Numeral.ofNat value.natAbs).text = Nat.toDigits 10 value.natAbs := by
    simp [Numeral.text, Numeral.ofNat, Numeral.fractionText]
  rw [text]
  cases value with
  | ofNat magnitude => exact Nat.toList_repr
  | negSucc magnitude =>
    show ("-" ++ Nat.repr (magnitude + 1)).toList = _
    rw [String.toList_append, Nat.toList_repr, decide_eq_true (Int.negSucc_lt_zero magnitude)]
    rfl

/-- An integer that is not too long is read as itself. -/
theorem plainTokenAt_int {value : Int} (short : Text.isLongInteger value = false)
    {rest : List Char} (ends : EndsNumber rest) :
    plainTokenAt ((toString value).toList ++ rest) =
      (.scalar (.int value), (toString value).toList.length) := by
  have few {bound : Nat} (some : 0 < bound) (below : value.natAbs < Nat.pow 10 bound) :
      ¬bound < (Nat.toDigits 10 value.natAbs).length :=
    not_lt.2 ((Nat.length_toDigits_le_iff (by decide) some).2 below)
  have digits : ¬longestInteger < (Nat.toDigits 10 value.natAbs).length := by
    rw [Text.isLongInteger, decide_eq_false_iff_not, not_le] at short
    exact few (by decide) short
  have sign :
      (if decide (value < 0) = true then -(value.natAbs : Int) else value.natAbs) = value := by
    by_cases below : value < 0
    · rw [if_pos (decide_eq_true below)]
      omega
    · rw [if_neg (by simpa using below)]
      omega
  rw [toList_toString_int, plainTokenAt_text (Numeral.isReadable_ofNat _) ends]
  simp only [Numeral.token, Numeral.ofNat, List.isEmpty_nil, Option.isNone_none, Bool.and_self,
    ↓reduceIte, digits, naturalOf_toDigits, sign]

/-! ### Decimals -/

/-- A numeral that is read as a double, close to a decimal. -/
structure Numeral.Writes (numeral : Numeral) (decimal : Binary64.Decimal) : Prop where
  readable : numeral.IsReadable
  pointed : (numeral.fraction.isEmpty && numeral.exponent.isNone) = false
  value : (naturalOf (numeral.whole ++ numeral.fraction) : ℚ) *
    10 ^ (numeral.exponent.getD 0 - numeral.fraction.length) = decimal.value
  large : min decimal.point 1 ≤ numeral.whole.length + numeral.exponent.getD 0
  small : numeral.exponent.getD 0 - numeral.fraction.length ≤ max decimal.point 0

end Json

namespace Binary64

open Text Json

namespace Decimal

variable {decimal : Decimal} (normal : decimal.IsNormal)

include normal

theorem IsNormal.positive : 0 < decimal.digits :=
  (Nat.pow_pos (by decide)).trans_le normal.least

theorem IsNormal.length_toDigits : (Nat.toDigits 10 decimal.digits).length = decimal.count := by
  obtain ⟨nonempty, least, below⟩ := normal
  refine le_antisymm ((Nat.length_toDigits_le_iff (by decide) nonempty).2 below) ?_
  refine not_lt.1 fun shorter => ?_
  have some : 0 < decimal.count - 1 := by
    have here : 0 < (Nat.toDigits 10 decimal.digits).length := Nat.length_toDigits_pos
    omega
  have less := (Nat.length_toDigits_le_iff (b := 10) (n := decimal.digits) (by decide) some).1
    (by omega)
  omega

/-- The text of a decimal is that of its digits. -/
theorem IsNormal.text : decimal.text = Nat.toDigits 10 decimal.digits := by
  rw [Decimal.text, normal.length_toDigits, Nat.sub_self]
  rfl

theorem IsNormal.length_text : decimal.text.length = decimal.count := by
  rw [normal.text, normal.length_toDigits]

theorem IsNormal.naturalOf_text : naturalOf decimal.text = decimal.digits := by
  rw [normal.text, naturalOf_toDigits]

end Decimal

theorem isAsciiDigit_of_mem_zeros {count : Nat} {character : Char}
    (member : character ∈ zeros count) : isAsciiDigit character = true := by
  rw [List.eq_of_mem_replicate member]
  rfl

/-- The numeral that a positional layout writes. -/
def positionalNumeral (decimal : Decimal) : Numeral :=
  if decimal.point ≤ 0 then ⟨['0'], zeros (-decimal.point).toNat ++ decimal.text, none⟩
  else if decimal.count ≤ decimal.point.toNat then
    ⟨decimal.text ++ zeros (decimal.point.toNat - decimal.count), ['0'], none⟩
  else ⟨decimal.text.take decimal.point.toNat, decimal.text.drop decimal.point.toNat, none⟩

/-- The numeral that a layout with an exponent writes. -/
def exponentialNumeral (decimal : Decimal) : Numeral :=
  ⟨decimal.text.take 1, decimal.text.drop 1, some (decimal.point - 1)⟩

section

variable {decimal : Decimal} (normal : decimal.IsNormal)

include normal

theorem text_positionalNumeral {layout : Layout} (wholePoint : layout.wholePoint = true) :
    (positionalNumeral decimal).text = decimal.positional layout := by
  have length := normal.length_toDigits
  unfold positionalNumeral Decimal.positional
  dsimp only
  split
  · simp [Numeral.text, Numeral.fractionText, normal.text, Nat.toDigits_ne_nil]
  · split
    · simp [Numeral.text, Numeral.fractionText]
    · next positive short =>
      have more : decimal.text.drop decimal.point.toNat ≠ [] := by
        rw [normal.text, Ne, List.drop_eq_nil_iff, length]
        exact short
      simp [Numeral.text, Numeral.fractionText, more]

theorem text_exponentialNumeral :
    (exponentialNumeral decimal).text = decimal.exponential := by
  unfold exponentialNumeral Decimal.exponential Numeral.text Numeral.fractionText
  obtain ⟨digit, rest, cut, _⟩ := exists_toDigits_eq_cons normal.positive
  rw [normal.text, cut]
  cases rest with
  | nil => rfl
  | cons next rest => simp

theorem isAsciiDigit_of_mem_text {character : Char} (member : character ∈ decimal.text) :
    isAsciiDigit character = true :=
  isAsciiDigit_of_mem_toDigits (normal.text ▸ member)

/-- The first digits of a decimal are those of a numeral. -/
theorem started_take {some : Nat} (positive : 0 < some) :
    ∃ first rest, decimal.text.take some = first :: rest ∧ first ≠ '0' := by
  obtain ⟨first, rest, cut, nonzero⟩ := exists_toDigits_eq_cons normal.positive
  obtain ⟨less, rfl⟩ : ∃ less, some = less + 1 := ⟨some - 1, by omega⟩
  exact ⟨first, rest.take less, by rw [normal.text, cut]; rfl, nonzero⟩

/-- A decimal that is cut after some of its digits is a numeral. -/
theorem isReadable_cut {some : Nat} (positive : 0 < some) (exponent : Option Int) :
    (⟨decimal.text.take some, decimal.text.drop some, exponent⟩ : Numeral).IsReadable where
  started := Or.inr (started_take normal positive)
  whole _ member := isAsciiDigit_of_mem_text normal (List.mem_of_mem_take member)
  fraction _ member := isAsciiDigit_of_mem_text normal (List.mem_of_mem_drop member)

/-- A decimal below one is written with zeros in front of its digits. -/
theorem writes_behindPoint (behind : decimal.point ≤ 0) :
    (⟨['0'], zeros (-decimal.point).toNat ++ decimal.text, none⟩ : Numeral).Writes decimal where
  readable := by
    refine ⟨Or.inl rfl, List.forall_mem_singleton.2 rfl, fun digit member => ?_⟩
    exact (List.mem_append.1 member).elim isAsciiDigit_of_mem_zeros
      (isAsciiDigit_of_mem_text normal)
  pointed := by simp [normal.text, Nat.toDigits_ne_nil]
  value := by
    have total : naturalOf (['0'] ++ (zeros (-decimal.point).toNat ++ decimal.text)) =
        decimal.digits := by
      rw [naturalOf_append, naturalOf_append, zeros, naturalOf_replicate_zero,
        normal.naturalOf_text]
      simp [naturalOf]
    rw [total, Decimal.value]
    congr 2
    simp only [Option.getD_none, List.length_append, normal.length_text, zeros,
      List.length_replicate]
    omega
  large := by
    simp only [List.length_singleton, Option.getD_none]
    omega
  small := by
    simp only [Option.getD_none]
    omega

/-- A whole decimal is written with zeros behind its digits. -/
theorem writes_whole (ahead : 0 < decimal.point) (whole : decimal.count ≤ decimal.point.toNat) :
    (⟨decimal.text ++ zeros (decimal.point.toNat - decimal.count), ['0'], none⟩ : Numeral).Writes
      decimal where
  readable := by
    obtain ⟨first, rest, cut, nonzero⟩ := exists_toDigits_eq_cons normal.positive
    refine ⟨Or.inr ⟨first, _, by rw [normal.text, cut]; rfl, nonzero⟩, fun digit member => ?_,
      List.forall_mem_singleton.2 rfl⟩
    exact (List.mem_append.1 member).elim (isAsciiDigit_of_mem_text normal)
      isAsciiDigit_of_mem_zeros
  pointed := rfl
  value := by
    have total :
        naturalOf (decimal.text ++ zeros (decimal.point.toNat - decimal.count) ++ ['0']) =
          decimal.digits * 10 ^ (decimal.point.toNat - decimal.count) * 10 := by
      rw [naturalOf_append, naturalOf_append, normal.naturalOf_text, zeros,
        naturalOf_replicate_zero, List.length_replicate]
      simp [naturalOf]
    have power : (10 : ℚ) ^ (decimal.point.toNat - decimal.count) =
        10 ^ (decimal.point - decimal.count) := by
      rw [← zpow_natCast]
      congr 1
      omega
    rw [total, Decimal.value, ← power]
    simp
  large := by
    simp only [List.length_append, normal.length_text, zeros, List.length_replicate,
      Option.getD_none]
    omega
  small := by
    simp only [Option.getD_none, List.length_singleton]
    omega

/-- Another decimal is written with the point among its digits. -/
theorem writes_amidDigits (ahead : 0 < decimal.point)
    (inside : decimal.point.toNat < decimal.count) :
    (⟨decimal.text.take decimal.point.toNat, decimal.text.drop decimal.point.toNat, none⟩ :
      Numeral).Writes decimal where
  readable := isReadable_cut normal (by omega) none
  pointed := by
    have more : decimal.text.drop decimal.point.toNat ≠ [] := by
      rw [Ne, List.drop_eq_nil_iff, normal.length_text]
      omega
    simp [more]
  value := by
    rw [List.take_append_drop, normal.naturalOf_text, Decimal.value, List.length_drop,
      normal.length_text]
    congr 2
    simp only [Option.getD_none]
    omega
  large := by
    simp only [List.length_take, normal.length_text, Option.getD_none]
    omega
  small := by
    simp only [Option.getD_none]
    omega

theorem writes_positionalNumeral : (positionalNumeral decimal).Writes decimal := by
  unfold positionalNumeral
  split
  · next behind => exact writes_behindPoint normal behind
  · next ahead =>
    split
    · next whole => exact writes_whole normal (not_le.1 ahead) whole
    · next inside => exact writes_amidDigits normal (not_le.1 ahead) (not_le.1 inside)

theorem writes_exponentialNumeral : (exponentialNumeral decimal).Writes decimal where
  readable := isReadable_cut normal Nat.one_pos _
  pointed := by simp [exponentialNumeral]
  value := by
    simp only [exponentialNumeral, List.take_append_drop, normal.naturalOf_text, Decimal.value,
      Option.getD_some, List.length_drop, normal.length_text]
    have nonempty := normal.nonempty
    congr 2
    omega
  large := by
    have nonempty := normal.nonempty
    simp only [exponentialNumeral, List.length_take, normal.length_text, Option.getD_some]
    omega
  small := by
    have nonempty := normal.nonempty
    simp only [exponentialNumeral, List.length_drop, normal.length_text, Option.getD_some]
    omega

end

/-! ### Reading doubles -/

section

variable {negative : Bool} {significand : Nat} {exponent : Int}
  (proper : (Binary64.finite negative significand exponent).IsProper) (positive : 0 < significand)

include proper positive

/-- What lies in the interval of a double is not far outside the range of the format. -/
theorem interval_bounds {value : ℚ} (inside : (intervalOf significand exponent).Contains value) :
    (2 : ℚ) ^ (-1075 : Int) ≤ value ∧ value ≤ 2 ^ (1025 : Int) := by
  obtain ⟨⟨lower, upper⟩, _⟩ := (contains_intervalOf_iff positive value).1 inside
  obtain ⟨_, width⟩ := lowerWidth_bounds significand exponent
  obtain ⟨least, greatest⟩ := magnitude_bounds proper positive
  have power : (0 : ℚ) < 2 ^ exponent := zpow_pos two_pos exponent
  have one : (1 : ℚ) ≤ significand := by exact_mod_cast positive
  rw [le_div_iff₀ power] at lower
  rw [div_le_iff₀ power] at upper
  have unit : (2 : ℚ) ^ exponent ≤ significand * 2 ^ exponent := le_mul_of_one_le_left power.le one
  constructor
  · calc (2 : ℚ) ^ (-1075 : Int) = 2 ^ (-1074 : Int) / 2 := by
          rw [show (-1075 : Int) = -1074 - 1 by decide, zpow_sub_one₀ two_ne_zero]
          rfl
      _ ≤ significand * 2 ^ exponent / 2 := div_le_div_of_nonneg_right least two_pos.le
      _ = significand / 2 * 2 ^ exponent := mul_div_right_comm _ _ _
      _ ≤ (significand - lowerWidth significand exponent) * 2 ^ exponent :=
        mul_le_mul_of_nonneg_right (by linarith) power.le
      _ ≤ value := lower
  · calc value ≤ (significand + 1 / 2) * 2 ^ exponent := upper
      _ ≤ significand * 2 ^ exponent * 2 := by linarith only [unit, power]
      _ ≤ 2 ^ (1024 : Int) * 2 := mul_le_mul_of_nonneg_right greatest.le two_pos.le
      _ = 2 ^ (1025 : Int) := by
        rw [show (1025 : Int) = 1024 + 1 by decide, zpow_add_one₀ two_ne_zero]

/-- A numeral that writes a decimal in the interval of a double is read as that double. -/
theorem ofParts_of_writes {decimal : Decimal} (normal : decimal.IsNormal)
    (inside : (intervalOf significand exponent).Contains decimal.value) {numeral : Numeral}
    (writes : numeral.Writes decimal) :
    ofParts negative numeral.whole numeral.fraction (numeral.exponent.getD 0) =
      .finite negative significand exponent := by
  obtain ⟨_, _, value, large, small⟩ := writes
  obtain ⟨above, below⟩ := interval_bounds proper positive inside
  obtain ⟨lower, upper⟩ := normal.value_bounds
  have ten : (1 : ℚ) < 10 := by norm_num
  have least : (10 : ℚ) ^ (-330 : Int) ≤ 2 ^ (-1075 : Int) := by
    have le : powerLe 10 (-330) 2 (-1075) = true := by decide +kernel
    exact_mod_cast zpow_le_zpow_of_powerLe (by decide) (by decide) le
  have greatest : (2 : ℚ) ^ (1025 : Int) ≤ 10 ^ (399 : Int) := by
    have le : powerLe 2 1025 10 399 = true := by decide +kernel
    exact_mod_cast zpow_le_zpow_of_powerLe (by decide) (by decide) le
  have pointLeast := (zpow_lt_zpow_iff_right₀ ten).1 (least.trans_lt (above.trans_lt upper))
  have pointGreatest := (zpow_le_zpow_iff_right₀ ten).1 (lower.trans (below.trans greatest))
  generalize shift : numeral.exponent.getD 0 - (numeral.fraction.length : Int) = power at *
  have nonzero : naturalOf (numeral.whole ++ numeral.fraction) ≠ 0 := by
    intro zero
    rw [zero, Nat.cast_zero, zero_mul] at value
    exact absurd (value ▸ lower) (not_le.2 (zpow_pos (by norm_num) _))
  have ratio :
      ((naturalOf (numeral.whole ++ numeral.fraction) * Nat.pow 10 power.toNat : Nat) : ℚ) /
        (Nat.pow 10 (-power).toNat : Nat) = decimal.value := by
    rw [← value, zpow_eq_div, Nat.cast_mul, Interval.cast_ten_pow, Interval.cast_ten_pow,
      mul_div_assoc]
  unfold ofParts ofDecimal
  dsimp only
  rw [shift, if_neg (by simpa using nonzero), if_neg (by rw [List.length_append]; push_cast; omega),
    if_neg (by omega)]
  refine ofRatio_of_contains proper positive (Nat.pow_pos (by decide)) ?_
  rw [ratio]
  exact inside

/-- A double other than zero is written as a numeral that is read as it. -/
theorem exists_numeral_write :
    ∃ numeral : Numeral, numeral.IsReadable ∧
      (shortest significand exponent).write jsonLayout = numeral.text ∧
      numeral.token negative = .scalar (.float (.finite negative significand exponent)) := by
  obtain ⟨normal, inside⟩ := contains_shortest proper positive
  have token {numeral : Numeral} (writes : numeral.Writes (shortest significand exponent)) :
      numeral.token negative = .scalar (.float (.finite negative significand exponent)) := by
    rw [Numeral.token, writes.pointed, if_neg Bool.false_ne_true,
      ofParts_of_writes proper positive normal inside writes]
  unfold Decimal.write
  dsimp only
  split
  · have writes := writes_positionalNumeral normal
    exact ⟨_, writes.readable, (text_positionalNumeral normal rfl).symm, token writes⟩
  · have writes := writes_exponentialNumeral normal
    exact ⟨_, writes.readable, (text_exponentialNumeral normal).symm, token writes⟩

end

end Binary64

namespace Json

/-- A double of the format is read as itself, whatever follows it that does not go on with it. -/
theorem plainTokenAt_float {number : Binary64} (proper : number.IsProper) {rest : List Char}
    (ends : EndsNumber rest) :
    plainTokenAt (number.jsonText.toList ++ rest) =
      (.scalar (.float number), number.jsonText.toList.length) := by
  cases number with
  | notANumber => rfl
  | infinite negative => cases negative <;> rfl
  | finite negative significand exponent =>
    rcases Nat.eq_zero_or_pos significand with rfl | positive
    · have zero : exponent = Binary64.leastExponent := proper.2.2.2.resolve_right (by decide)
      have readable : (⟨['0'], ['0'], none⟩ : Numeral).IsReadable := by
        exact ⟨Or.inl rfl, List.forall_mem_singleton.2 rfl, List.forall_mem_singleton.2 rfl⟩
      have written : (Binary64.finite negative 0 Binary64.leastExponent).jsonText =
          String.ofList (Binary64.signed negative (⟨['0'], ['0'], none⟩ : Numeral).text) := rfl
      rw [zero, written, String.toList_ofList]
      exact plainTokenAt_text readable ends negative
    · obtain ⟨numeral, readable, text, token⟩ := Binary64.exists_numeral_write proper positive
      have written : (Binary64.finite negative significand exponent).jsonText =
          String.ofList (Binary64.signed negative numeral.text) := by
        rw [← text]
        exact if_neg (mt beq_iff_eq.1 (Nat.pos_iff_ne_zero.1 positive))
      rw [written, String.toList_ofList, plainTokenAt_text readable ends, token]

end Json

end ClientModel
