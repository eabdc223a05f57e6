/-
This file follows the pointers to all places of a document. A path goes through maps by keys and
through lists by positions, and each of its steps is a segment of its pointer: a key with its
slashes and tildes escaped, a position in decimal digits. The main statement is that the pointer of
a path leads where the path does, whatever its keys are. Only a position whose numeral has more
digits than an integer may have would not be read, and no list is that long.
-/

import ClientModel.Proofs.Pointers
import ClientModel.Proofs.WrittenNumbers

namespace ClientModel

/-! ### Plain numerals -/

namespace Text

section

variable {character : Char} (digit : isAsciiDigit character = true)

include digit

theorem toNat_bounds_of_isAsciiDigit : 48 ≤ character.toNat ∧ character.toNat ≤ 57 := by
  simp only [isAsciiDigit, Bool.and_eq_true, decide_eq_true_eq] at digit
  exact digit

theorem asciiDigitFor_of_isAsciiDigit : asciiDigitFor character = character := by
  have bounds := toNat_bounds_of_isAsciiDigit digit
  rw [asciiDigitFor, decimalValue?_of_isAsciiDigit digit]
  show Char.ofNat (48 + (character.toNat - 48)) = character
  rw [Nat.add_sub_cancel' bounds.1, Char.ofNat_toNat]

theorem not_isNumeralBlank_of_isAsciiDigit : ¬ isNumeralBlank character = true := by
  have bounds := toNat_bounds_of_isAsciiDigit digit
  simp only [isNumeralBlank, isBlank, Bool.and_eq_true, Bool.or_eq_true, decide_eq_true_eq,
    beq_iff_eq]
  omega

theorem ne_of_isAsciiDigit {other : Char} (different : isAsciiDigit other = false) :
    character ≠ other := by
  rintro rfl
  rw [digit] at different
  cases different

end

/-- Digits without an underscore between them stay as they are. -/
theorem withoutDigitSeparators?_of_digits {digits : List Char}
    (each : ∀ digit ∈ digits, isAsciiDigit digit = true) :
    withoutDigitSeparators? digits = some digits := by
  fun_induction withoutDigitSeparators? digits with
  | case1 => rfl
  | case2 rest => exact absurd (each _ List.mem_cons_self) (by decide)
  | case3 character next rest _ _ | case4 character next rest _ =>
    exact absurd (each '_' (List.mem_cons_of_mem _ List.mem_cons_self)) (by decide)
  | case5 character rest _ _ inductionHypothesis =>
    rw [inductionHypothesis fun digit member => each digit (List.mem_cons_of_mem _ member)]
    rfl

/-- ASCII digits alone are a numeral without a sign. -/
theorem numeralParts?_of_digits {digits : List Char}
    (each : ∀ digit ∈ digits, isAsciiDigit digit = true) :
    numeralParts? digits = some (false, digits) := by
  have keeps {characters : List Char}
      (each : ∀ digit ∈ characters, isAsciiDigit digit = true) :
      characters.dropWhile isNumeralBlank = characters := by
    cases characters with
    | nil => rfl
    | cons first rest =>
      exact List.dropWhile_cons_of_neg
        (not_isNumeralBlank_of_isAsciiDigit (each first List.mem_cons_self))
  have trimmed : trimNumeral digits = digits := by
    rw [trimNumeral, keeps each, keeps fun digit member => each digit (List.mem_reverse.1 member),
      List.reverse_reverse]
  have plain : digits.map asciiDigitFor = digits := by
    rw [List.map_congr_left fun digit member => asciiDigitFor_of_isAsciiDigit (each digit member),
      List.map_id']
  have unsigned : splitSign digits = (false, digits) := by
    cases digits with
    | nil => rfl
    | cons first rest =>
      have digit := each first List.mem_cons_self
      have minus : first ≠ '-' := ne_of_isAsciiDigit digit (by decide)
      have plus : first ≠ '+' := ne_of_isAsciiDigit digit (by decide)
      simp [splitSign, minus, plus]
  rw [numeralParts?, trimmed, plain, unsigned]
  show (withoutDigitSeparators? digits).map (false, ·) = _
  rw [withoutDigitSeparators?_of_digits each]
  rfl

/-- ASCII digits are read as their number, if they are not too many. -/
theorem readInteger?_of_digits {digits : List Char} (filled : digits ≠ [])
    (each : ∀ digit ∈ digits, isAsciiDigit digit = true) :
    readInteger? digits =
      if digits.length ≤ longestInteger then some (naturalOf digits : Int) else none := by
  rw [readInteger?, numeralParts?_of_digits each]
  by_cases few : digits.length ≤ longestInteger
  · simpa [few, filled] using each
  · simp [few]

end Text

namespace Pointer

/-! ### Paths -/

/-- A step into a value: to the item of a key, or to that of a position. -/
inductive Step where
  | key (name : String)
  | item (position : Nat)
  deriving DecidableEq, Repr

/-- The segment that writes a step. -/
def Step.segment : Step → List Char
  | .key name => escape name.toList
  | .item position => Nat.toDigits 10 position

/-- The pointer of a path. -/
def writePath (path : List Step) : String :=
  "#/" ++ String.ofList (Text.joinWith '/' (path.map Step.segment))

/-- A path leads from a value to a value in it. -/
inductive Leads : Value → List Step → Value → Prop
  | here (value : Value) : Leads value [] value
  | key {current item value : Value} {entries : Entries} {name : String} {path : List Step}
      (map : current.entries? = some entries) (found : entries.get? name = some item)
      (further : Leads item path value) : Leads current (.key name :: path) value
  | item {current item value : Value} {items : List Value} {position : Nat} {path : List Step}
      (list : current.items? = some items) (found : items[position]? = some item)
      (further : Leads item path value) : Leads current (.item position :: path) value

/-- A step as the key that its segment writes. -/
def Step.text : Step → String
  | .key name => name
  | .item position => String.ofList (Nat.toDigits 10 position)

/-- Nothing is escaped in a position. -/
theorem Step.escape_text (step : Step) : escape step.text.toList = step.segment := by
  cases step with
  | key name => rfl
  | item position =>
    have digits {character : Char} (member : character ∈ Nat.toDigits 10 position) :=
      Text.isAsciiDigit_of_mem_toDigits member
    rw [Step.text, String.toList_ofList]
    exact escape_of_not_mem (fun member => Text.ne_of_isAsciiDigit (digits member) (by decide) rfl)
      fun member => Text.ne_of_isAsciiDigit (digits member) (by decide) rfl

theorem writePath_eq_write (step : Step) (path : List Step) :
    writePath (step :: path) = write ((step :: path).map Step.text) := by
  refine String.toList_injective ?_
  simp only [writePath, write, writeSegments, List.map_cons, Text.joinWith_cons,
    List.flatMap_cons, List.flatMap_map, Step.escape_text, String.toList_append,
    String.toList_ofList]
  rfl

/-! ### Steps into lists -/

theorem itemAt?_natCast (items : List Value) (position : Nat) :
    itemAt? items (position : Int) = items[position]? := by
  have fromFront : ¬ (position : Int) < 0 := by omega
  simp [itemAt?, fromFront]

section

variable {current : Value} {items : List Value} (list : current.items? = some items)

include list

theorem opened_of_items? : current.opened = .list items := by
  unfold Value.items? at list
  split at list
  · next opened => rw [opened, Option.some.inj list]
  · cases list

/-- A segment leads into a list if it is read as the place of an item. -/
theorem enter_of_items? (pointer segment : String) :
    enter pointer current segment =
      ((Text.readInteger? segment.toList).bind (itemAt? items)).elim
        (.error (.invalidIndex pointer segment)) .ok := by
  rw [enter, opened_of_items? list]
  dsimp only
  cases (Text.readInteger? segment.toList).bind (itemAt? items) <;> rfl

/-- A position leads to its item, if its numeral is read. -/
theorem enter_position (pointer : String) {position : Nat} {item : Value}
    (found : items[position]? = some item) :
    enter pointer current (Step.item position).text =
      if (Nat.toDigits 10 position).length ≤ Text.longestInteger then .ok item
      else .error (.invalidIndex pointer (Step.item position).text) := by
  rw [enter_of_items? list, Step.text, String.toList_ofList,
    Text.readInteger?_of_digits Nat.toDigits_ne_nil fun _ => Text.isAsciiDigit_of_mem_toDigits,
    Text.naturalOf_toDigits]
  split
  · rw [Option.bind_some, itemAt?_natCast, found]
    rfl
  · rfl

end

/-! ### Following a path -/

/-- Stepping along a path succeeds if the numerals on it are read, and then ends where the path
does. -/
theorem foldlM_enter_iff {root value : Value} {path : List Step} (leads : Leads root path value)
    (pointer : String) :
    (path.map Step.text).foldlM (enter pointer) root = .ok value ↔
      ∀ position, .item position ∈ path →
        (Nat.toDigits 10 position).length ≤ Text.longestInteger := by
  induction leads with
  | here value => exact iff_of_true rfl fun _ member => absurd member List.not_mem_nil
  | @key current item value entries name path map found _ inductionHypothesis =>
    have present : current.entriesOrEmpty.get? name = some item := by
      rw [Value.entriesOrEmpty, map]
      exact found
    rw [List.map_cons, Step.text, foldlM_enter_cons pointer present, inductionHypothesis]
    simp
  | @item current item value items position path list found _ inductionHypothesis =>
    rw [List.map_cons, List.foldlM_cons, enter_position list pointer found]
    by_cases few : (Nat.toDigits 10 position).length ≤ Text.longestInteger
    · rw [if_pos few]
      refine inductionHypothesis.trans ⟨fun each other member => ?_, fun each other member =>
        each other (List.mem_cons_of_mem _ member)⟩
      rcases List.mem_cons.1 member with same | further
      · rwa [Step.item.inj same]
      · exact each other further
    · rw [if_neg few]
      refine iff_of_false (fun failed => ?_) fun each => few (each position List.mem_cons_self)
      cases failed

/-- The pointer of a path leads where the path leads, whatever the keys on it are. Only a position
whose numeral has more digits than an integer may have would not be read. -/
theorem resolve_writePath_iff {root value : Value} {path : List Step}
    (leads : Leads root path value) (filled : path ≠ []) :
    resolve (writePath path) root = .ok value ↔
      ∀ position, .item position ∈ path → position < 10 ^ Text.longestInteger := by
  obtain ⟨step, rest, rfl⟩ := List.exists_cons_of_ne_nil filled
  rw [writePath_eq_write, List.map_cons, resolve_write, ← List.map_cons, foldlM_enter_iff leads]
  exact forall₂_congr fun position _ => Nat.length_toDigits_le_iff (by decide) (by decide)

/-- A document with a key of escapes and separators, a list under it, and an empty key in this. -/
def nestedDocument : Value :=
  .map [(.string "~01/~", .list [.null, .map [(.string "", .string "deep")]])]

theorem resolve_writePath_nestedDocument :
    Leads nestedDocument [.key "~01/~", .item 1, .key ""] (.string "deep") ∧
      writePath [.key "~01/~", .item 1, .key ""] = "#/~001~1~0/1/" ∧
      resolve "#/~001~1~0/1/" nestedDocument = .ok (.string "deep") := by
  have leads : Leads nestedDocument [.key "~01/~", .item 1, .key ""] (.string "deep") :=
    .key rfl rfl (.item rfl rfl (.key rfl rfl (.here _)))
  have written : writePath [.key "~01/~", .item 1, .key ""] = "#/~001~1~0/1/" := by decide
  refine ⟨leads, written, written ▸ (resolve_writePath_iff leads (by decide)).2 ?_⟩
  intro position member
  obtain rfl : position = 1 := by simpa using member
  exact Nat.one_lt_pow (by decide) (by decide)

end Pointer

end ClientModel
