/-
This file says what stands outside in the text of a type. A reader of the text keeps track of the
brackets that are open and of string literals. A text that leaves none of them open can be put
beside others without changing what stands outside in them, and what is put in brackets or quotes
stands inside. The last statements say so of the texts of literal values, whatever the values are.
-/

import ClientModel.Json.Writer
import ClientModel.Proofs.Numerals

namespace ClientModel

namespace TypeText

/-! ### Reading -/

/-- The brackets that hold a group together. -/
inductive Bracket where
  | round
  | curly
  | angle
  deriving DecidableEq

/-- The bracket that a character opens. -/
def opened? : Char → Option Bracket
  | '(' => some .round
  | '\x7b' => some .curly
  | '<' => some .angle
  | _ => none

/-- The bracket that a character closes. -/
def closed? : Char → Option Bracket
  | ')' => some .round
  | '\x7d' => some .curly
  | '>' => some .angle
  | _ => none

/-- Where a reader of a type text stands: between marks, in a string literal, or right behind a
backslash in one. The open brackets are listed from the inside out. -/
inductive Place where
  | between (opened : List Bracket)
  | quoted (opened : List Bracket)
  | escaped (opened : List Bracket)

namespace Place

/-- The open brackets. -/
def opened : Place → List Bracket
  | .between opened | .quoted opened | .escaped opened => opened

/-- Where a reader stands behind a character. A bracket is closed by its own kind only. -/
def pass : Place → Char → Place
  | .between opened, character =>
    if character == '"' then .quoted opened
    else
      match opened? character, closed? character with
      | some bracket, _ => .between (bracket :: opened)
      | none, some bracket =>
        if opened.head? == some bracket then .between opened.tail else .between opened
      | none, none => .between opened
  | .quoted opened, character =>
    if character == '"' then .between opened
    else if character == '\\' then .escaped opened
    else .quoted opened
  | .escaped opened, _ => .quoted opened

/-- Where a reader stands behind a text. -/
def passAll (place : Place) (text : List Char) : Place := text.foldl pass place

theorem passAll_cons (place : Place) (first : Char) (rest : List Char) :
    place.passAll (first :: rest) = (place.pass first).passAll rest := rfl

theorem passAll_append (place : Place) (front back : List Char) :
    place.passAll (front ++ back) = (place.passAll front).passAll back := List.foldl_append

end Place

/-- A mark stands in a text outside all brackets and string literals. -/
def StandsOutside (mark text : String) : Prop :=
  ∃ before after, text = before ++ mark ++ after ∧
    (Place.between []).passAll before.toList = .between []

/-! ### Texts that leave nothing open -/

/-- A text that closes what it opens and nothing else, and in which only allowed characters stand
outside. -/
structure Encloses (allowed : Char → Bool) (text : List Char) : Prop where
  returns : ∀ opened, (Place.between opened).passAll text = .between opened
  within : ∀ opened before character after, text = before ++ character :: after →
    opened <:+ ((Place.between opened).passAll before).opened ∧
      ((Place.between opened).passAll before = .between opened → allowed character = true)

/-- A character that is neither a quote nor a bracket. -/
def isPlain (character : Char) : Bool :=
  character != '"' && (opened? character).isNone && (closed? character).isNone

theorem pass_of_isPlain {character : Char} (plain : isPlain character = true)
    (opened : List Bracket) :
    (Place.between opened).pass character = .between opened := by
  rw [isPlain, Bool.and_eq_true, Bool.and_eq_true, bne_iff_ne, Option.isNone_iff_eq_none,
    Option.isNone_iff_eq_none] at plain
  obtain ⟨⟨unquoted, unopened⟩, unclosed⟩ := plain
  rw [Place.pass, if_neg (by simpa using unquoted), unopened, unclosed]

namespace Encloses

variable {allowed wider : Char → Bool} {text front back : List Char}

theorem mono (encloses : Encloses allowed text)
    (wide : ∀ character, allowed character = true → wider character = true) :
    Encloses wider text where
  returns := encloses.returns
  within opened before character after same :=
    (encloses.within opened before character after same).imp_right fun right here =>
      wide character (right here)

theorem nil : Encloses allowed [] where
  returns _ := rfl
  within _ before _ _ same := by simp at same

theorem append (first : Encloses allowed front) (second : Encloses allowed back) :
    Encloses allowed (front ++ back) where
  returns opened := by rw [Place.passAll_append, first.returns, second.returns]
  within opened before character after same := by
    rcases List.append_eq_append_iff.1 same with ⟨further, rfl, sameBack⟩ | ⟨more, rfl, sameRest⟩
    · rw [Place.passAll_append, first.returns]
      exact second.within opened further character after sameBack
    · cases more with
      | nil =>
        -- The cut is at the seam, where the character is the first one of the second text.
        rw [List.append_nil] at first
        rw [first.returns]
        exact second.within opened [] character after sameRest.symm
      | cons other more =>
        obtain ⟨rfl, _⟩ := List.cons.inj sameRest
        exact first.within opened before character more rfl

theorem singleton {character : Char} (plain : isPlain character = true)
    (right : allowed character = true) : Encloses allowed [character] where
  returns := pass_of_isPlain plain
  within opened before other after same := by
    rcases List.singleton_eq_append_iff.1 same with ⟨rfl, same⟩ | ⟨_, impossible⟩
    · obtain ⟨rfl, _⟩ := List.cons.inj same
      exact ⟨List.suffix_refl _, fun _ => right⟩
    · cases impossible

/-- A text without brackets and quotes leaves nothing open. -/
theorem of_isPlain (each : ∀ character ∈ text, isPlain character = true ∧
    allowed character = true) : Encloses allowed text := by
  induction text with
  | nil => exact nil
  | cons first rest inductionHypothesis =>
    obtain ⟨⟨plain, right⟩, others⟩ := List.forall_mem_cons.1 each
    exact (singleton plain right).append (inductionHypothesis others)

theorem word (word : String)
    (plain : word.toList.all (fun character => isPlain character && allowed character) = true) :
    Encloses allowed word.toList :=
  of_isPlain fun character member =>
    (Bool.and_eq_true _ _).mp (List.all_eq_true.1 plain character member)

theorem flatMap {Item : Type} {write : Item → List Char} {items : List Item}
    (each : ∀ item ∈ items, Encloses allowed (write item)) :
    Encloses allowed (items.flatMap write) := by
  induction items with
  | nil => exact nil
  | cons item rest inductionHypothesis =>
    obtain ⟨here, others⟩ := List.forall_mem_cons.1 each
    rw [List.flatMap_cons]
    exact here.append (inductionHypothesis others)

theorem intercalate {separator : List Char} (between : Encloses allowed separator)
    {parts : List (List Char)} (each : ∀ part ∈ parts, Encloses allowed part) :
    Encloses allowed (separator.intercalate parts) := by
  induction parts with
  | nil => exact nil
  | cons first rest inductionHypothesis =>
    obtain ⟨here, others⟩ := List.forall_mem_cons.1 each
    cases rest with
    | nil => simpa [List.intercalate] using here
    | cons second rest =>
      rw [List.intercalate_cons_cons]
      exact (here.append between).append (inductionHypothesis others)

/-- A text in brackets or quotes, behind whose first character a reader stands further inside as
long as the text goes on. -/
theorem around {first last : Char} {body : List Char} (right : allowed first = true)
    (returns : ∀ opened,
      (Place.between opened).passAll (first :: (body ++ [last])) = .between opened)
    (inside : ∀ opened before after, body = before ++ after →
      opened <:+ ((Place.between opened).passAll (first :: before)).opened ∧
        (Place.between opened).passAll (first :: before) ≠ .between opened) :
    Encloses allowed (first :: (body ++ [last])) where
  returns := returns
  within opened before character after same := by
    cases before with
    | nil =>
      obtain ⟨rfl, _⟩ := List.cons.inj same
      exact ⟨List.suffix_refl _, fun _ => right⟩
    | cons other before =>
      obtain ⟨rfl, sameRest⟩ := List.cons.inj same
      have cut : ∃ after, body = before ++ after := by
        rcases List.append_eq_append_iff.1 sameRest with ⟨further, rfl, sameLast⟩ | ⟨more, rfl, _⟩
        · rcases List.singleton_eq_append_iff.1 sameLast with ⟨rfl, _⟩ | ⟨_, impossible⟩
          · exact ⟨[], by simp⟩
          · cases impossible
        · exact ⟨more, rfl⟩
      obtain ⟨after, sameBody⟩ := cut
      obtain ⟨suffix, apart⟩ := inside opened before after sameBody
      exact ⟨suffix, fun outside => absurd outside apart⟩

/-- What stands in brackets stands inside. -/
theorem bracketed {opening closing : Char} {bracket : Bracket}
    (opens : opened? opening = some bracket) (closes : closed? closing = some bracket)
    (right : allowed opening = true) (inner : Encloses (fun _ => true) text) :
    Encloses allowed (opening :: (text ++ [closing])) := by
  have enter (opened : List Bracket) :
      (Place.between opened).pass opening = .between (bracket :: opened) := by
    unfold opened? at opens
    split at opens <;> cases opens <;> rfl
  have leave (opened : List Bracket) :
      (Place.between (bracket :: opened)).pass closing = .between opened := by
    unfold closed? at closes
    split at closes <;> cases closes <;> rfl
  refine around right (fun opened => ?_) fun opened before after same => ?_
  · rw [Place.passAll_cons, enter, Place.passAll_append, inner.returns]
    exact leave opened
  · rw [Place.passAll_cons, enter]
    -- The text does not close what was open before it, so the bracket is open up to its own end.
    have deeper : bracket :: opened <:+
        ((Place.between (bracket :: opened)).passAll before).opened := by
      cases after with
      | nil =>
        rw [List.append_nil] at same
        rw [← same, inner.returns]
        exact List.suffix_refl _
      | cons character after => exact (inner.within _ before character after same).1
    refine ⟨(List.suffix_cons _ _).trans deeper, fun outside => ?_⟩
    rw [outside] at deeper
    exact absurd deeper.length_le (by simp [Place.opened])

/-- Where a character is not allowed, a mark of it and spaces around it stands nowhere outside. -/
theorem not_standsOutside {text mark : String} (encloses : Encloses allowed text.toList)
    {character : Char} (spaced : mark.toList = [' ', character, ' '])
    (foreign : allowed character = false) : ¬StandsOutside mark text := by
  rintro ⟨before, after, rfl, outside⟩
  have same : (before ++ mark ++ after).toList =
      (before.toList ++ [' ']) ++ character :: ' ' :: after.toList := by
    simp [String.toList_append, spaced]
  have here : (Place.between []).passAll (before.toList ++ [' ']) = .between [] := by
    rw [Place.passAll_append, outside]
    rfl
  have right := (encloses.within [] _ _ _ same).2 here
  rw [foreign] at right
  cases right

/-- In front of a part there is a text that leaves nothing open. -/
theorem exists_intercalate_eq {separator : String} (between : Encloses allowed separator.toList)
    {parts : List String} (each : ∀ part ∈ parts, Encloses allowed part.toList) {part : String}
    (among : part ∈ parts) : ∃ before after, separator.intercalate parts = before ++ part ++ after ∧
      Encloses allowed before.toList := by
  induction parts with
  | nil => exact absurd among List.not_mem_nil
  | cons first rest inductionHypothesis =>
    obtain ⟨here, others⟩ := List.forall_mem_cons.1 each
    rcases List.mem_cons.1 among with rfl | further
    · cases rest with
      | nil => exact ⟨"", "", by simp, nil⟩
      | cons second rest =>
        rw [String.intercalate_cons_cons]
        exact ⟨"", _, by rw [String.empty_append, String.append_assoc], nil⟩
    · obtain ⟨before, after, same, enclosed⟩ := inductionHypothesis others further
      cases rest with
      | nil => exact absurd further List.not_mem_nil
      | cons second rest =>
        refine ⟨first ++ separator ++ before, after, ?_, ?_⟩
        · rw [String.intercalate_cons_cons, same]
          simp only [String.append_assoc]
        · rw [String.toList_append, String.toList_append]
          exact (here.append between).append enclosed

end Encloses

/-- What stands outside in a part stands outside in the whole, where nothing is left open in front
of the part. -/
theorem StandsOutside.append {mark text : String} (outside : StandsOutside mark text)
    {allowed : Char → Bool} {front : String} (encloses : Encloses allowed front.toList)
    (back : String) : StandsOutside mark (front ++ text ++ back) := by
  obtain ⟨before, after, rfl, here⟩ := outside
  refine ⟨front ++ before, after ++ back, by simp only [String.append_assoc], ?_⟩
  rw [String.toList_append, Place.passAll_append, encloses.returns, here]

/-! ### String literals -/

/-- A text that may stand between the quotes of a string literal. -/
structure IsQuotable (text : List Char) : Prop where
  returns : ∀ opened, (Place.quoted opened).passAll text = .quoted opened
  within : ∀ opened before after, text = before ++ after →
    (Place.quoted opened).passAll before = .quoted opened ∨
      (Place.quoted opened).passAll before = .escaped opened

theorem pass_quoted {character : Char} (unquoted : character ≠ '"') (unescaped : character ≠ '\\')
    (opened : List Bracket) : (Place.quoted opened).pass character = .quoted opened := by
  rw [Place.pass, if_neg (by simpa using unquoted), if_neg (by simpa using unescaped)]

namespace IsQuotable

variable {text front back : List Char}

theorem nil : IsQuotable [] where
  returns _ := rfl
  within opened before after same := by
    obtain ⟨rfl, _⟩ := List.append_eq_nil_iff.1 same.symm
    exact Or.inl rfl

theorem append (first : IsQuotable front) (second : IsQuotable back) :
    IsQuotable (front ++ back) where
  returns opened := by rw [Place.passAll_append, first.returns, second.returns]
  within opened before after same := by
    rcases List.append_eq_append_iff.1 same with ⟨further, rfl, sameBack⟩ | ⟨more, rfl, _⟩
    · rw [Place.passAll_append, first.returns]
      exact second.within opened further after sameBack
    · exact first.within opened before more rfl

theorem singleton {character : Char} (unquoted : character ≠ '"') (unescaped : character ≠ '\\') :
    IsQuotable [character] where
  returns := pass_quoted unquoted unescaped
  within opened before after same := by
    rcases List.singleton_eq_append_iff.1 same with ⟨rfl, _⟩ | ⟨rfl, _⟩
    · exact Or.inl rfl
    · exact Or.inl (pass_quoted unquoted unescaped opened)

theorem flatMap {Item : Type} {write : Item → List Char} (items : List Item)
    (each : ∀ item, IsQuotable (write item)) : IsQuotable (items.flatMap write) := by
  induction items with
  | nil => exact nil
  | cons item rest inductionHypothesis =>
    rw [List.flatMap_cons]
    exact (each item).append inductionHypothesis

/-- A backslash takes one character with it. -/
theorem escape (character : Char) : IsQuotable ['\\', character] where
  returns _ := rfl
  within opened before after same := by
    match before with
    | [] => exact Or.inl rfl
    | [_] =>
      obtain ⟨rfl, _⟩ := List.cons.inj same
      exact Or.inr rfl
    | _ :: _ :: more =>
      obtain ⟨rfl, sameRest⟩ := List.cons.inj same
      obtain ⟨rfl, sameMore⟩ := List.cons.inj sameRest
      obtain ⟨rfl, _⟩ := List.append_eq_nil_iff.1 sameMore.symm
      exact Or.inl rfl

end IsQuotable

/-- What stands in a string literal stands inside. -/
theorem Encloses.literal {allowed : Char → Bool} {text : List Char} (right : allowed '"' = true)
    (quotable : IsQuotable text) : Encloses allowed ('"' :: (text ++ ['"'])) := by
  refine around right (fun opened => ?_) fun opened before after same => ?_
  · rw [Place.passAll_cons, Place.passAll_append]
    show ((Place.quoted opened).passAll text).passAll ['"'] = _
    rw [quotable.returns]
    rfl
  · rw [Place.passAll_cons]
    show _ <:+ ((Place.quoted opened).passAll before).opened ∧
      (Place.quoted opened).passAll before ≠ _
    rcases quotable.within opened before after same with here | here <;> rw [here]
    · exact ⟨List.suffix_refl _, nofun⟩
    · exact ⟨List.suffix_refl _, nofun⟩

/-! ### Literal values -/

/-- A mark between the parts of a type. -/
def isMark (character : Char) : Bool := character == '|' || character == '&'

theorem isQuotable_hexDigits (width value : Nat) : IsQuotable (Text.hexDigits width value) := by
  induction width generalizing value with
  | zero => exact .nil
  | succ width inductionHypothesis =>
    have each : ∀ digit ∈ List.range 16,
        Text.hexDigit digit ≠ '"' ∧ Text.hexDigit digit ≠ '\\' := by decide
    have last := each (value % 16) (List.mem_range.2 (Nat.mod_lt value (by decide)))
    exact (inductionHypothesis _).append (.singleton last.1 last.2)

theorem isQuotable_escapedUnit (unit : Nat) : IsQuotable (Json.escapedUnit unit) :=
  (IsQuotable.escape 'u').append (isQuotable_hexDigits 4 unit)

theorem isQuotable_escapedCode (code : Nat) : IsQuotable (Json.escapedCode code) := by
  unfold Json.escapedCode
  split
  · exact isQuotable_escapedUnit code
  · exact (isQuotable_escapedUnit _).append (isQuotable_escapedUnit _)

/-- A character is written between quotes so that it does not end them. -/
theorem isQuotable_writtenCharacter (asciiOnly : Bool) (character : Char) :
    IsQuotable (Json.writtenCharacter asciiOnly character) := by
  unfold Json.writtenCharacter
  split
  · exact .escape '"'
  · next unquoted =>
    split
    · exact .escape '\\'
    · next unescaped =>
      have itself : IsQuotable [character] :=
        .singleton (by simpa using unquoted) (by simpa using unescaped)
      repeat' split
      all_goals first | exact .escape _ | exact isQuotable_escapedCode _ | exact itself

theorem encloses_writtenText (asciiOnly : Bool) (characters : List Char) :
    Encloses (!isMark ·) (Json.writtenText asciiOnly characters) :=
  .literal rfl (.flatMap characters (isQuotable_writtenCharacter asciiOnly))

/-- The characters that say something of the groups of a text. -/
def signs : List Char := ['"', '(', ')', '\x7b', '\x7d', '<', '>', '|', '&']

theorem isPlain_of_notMem_signs {character : Char} (apart : character ∉ signs) :
    isPlain character = true ∧ (!isMark character) = true := by
  simp only [signs, List.mem_cons, List.not_mem_nil, or_false, not_or] at apart
  have unopened : opened? character = none := by
    unfold opened?
    split <;> simp_all
  have unclosed : closed? character = none := by
    unfold closed?
    split <;> simp_all
  simp [isPlain, isMark, unopened, unclosed, apart]

/-- A text of characters of a kind without signs leaves nothing open. -/
theorem encloses_of_kind {kind : Char → Bool} (apart : signs.all (!kind ·) = true)
    {text : List Char} (each : ∀ character ∈ text, kind character = true) :
    Encloses (!isMark ·) text := by
  refine .of_isPlain fun character member => isPlain_of_notMem_signs fun sign => ?_
  have no := List.all_eq_true.1 apart character sign
  rw [each character member] at no
  cases no

theorem encloses_writtenScalar (asciiOnly : Bool) (content : Scalar) :
    Encloses (!isMark ·) (Json.writtenScalar asciiOnly content) := by
  cases content with
  | null => exact Encloses.word "null" (by decide)
  | bool value =>
    cases value with
    | false => exact Encloses.word "false" (by decide)
    | true => exact Encloses.word "true" (by decide)
  | int value =>
    exact encloses_of_kind (by decide) fun _ => Binary64.isNumeralCharacter_of_mem_toString
  | float value =>
    cases value with
    | notANumber => exact Encloses.word "NaN" (by decide)
    | infinite negative =>
      cases negative with
      | false => exact Encloses.word "Infinity" (by decide)
      | true => exact Encloses.word "-Infinity" (by decide)
    | finite negative significand exponent =>
      exact encloses_of_kind (by decide) fun _ => Binary64.isNumeralCharacter_of_mem_write
  | string _ | date _ | timestamp _ | binary _ => exact encloses_writtenText asciiOnly _

theorem encloses_writtenKey (asciiOnly : Bool) (key : Scalar) :
    Encloses (!isMark ·) (Json.writtenKey asciiOnly key) := by
  cases key <;> exact encloses_writtenText asciiOnly _

section

variable {parts : List (List Char)} (each : ∀ part ∈ parts, Encloses (!isMark ·) part) (level : Nat)

include each

/-- Parts in a row, each behind a comma. -/
theorem encloses_listed {opening closing : Char}
    (wraps : ∀ inner, Encloses (!isMark ·) inner →
      Encloses (!isMark ·) (opening :: (inner ++ [closing]))) :
    Encloses (!isMark ·) (Json.literalStyle.bracketed level opening closing parts) := by
  cases parts with
  | nil => exact wraps [] .nil
  | cons first rest =>
    obtain ⟨here, others⟩ := List.forall_mem_cons.1 each
    have following : Encloses (!isMark ·) (rest.flatMap fun part => ", ".toList ++ part) :=
      .flatMap fun part member => (Encloses.word ", " (by decide)).append (others part member)
    simpa [Json.Style.bracketed, Json.Style.lineStart, Json.literalStyle, List.append_assoc]
      using wraps _ (here.append following)

theorem encloses_list :
    Encloses (!isMark ·) (Json.literalStyle.bracketed level '[' ']' parts) := by
  refine encloses_listed each level fun inner right => ?_
  exact ((Encloses.word "[" (by decide)).append right).append (Encloses.word "]" (by decide))

theorem encloses_map :
    Encloses (!isMark ·) (Json.literalStyle.bracketed level '\x7b' '\x7d' parts) :=
  encloses_listed each level fun _ right => .bracketed rfl rfl rfl (right.mono fun _ _ => rfl)

end

mutual

/-- The text of a literal leaves nothing open, and no mark stands outside in it. -/
theorem encloses_written (level : Nat) (value : Value) :
    Encloses (!isMark ·) (Json.written Json.literalStyle level value) := by
  match value with
  | .scalar content => exact encloses_writtenScalar _ content
  | .list items => exact encloses_list (encloses_writtenItems (level + 1) items) level
  | .map entries => exact encloses_map (encloses_writtenEntries (level + 1) entries) level
  | .set members =>
    have each := fun member (_ : member ∈ members) => encloses_writtenScalar true member
    exact encloses_list (List.forall_mem_map.2 each) level
  | .pair first second =>
    exact encloses_list (List.forall_mem_cons.2 ⟨encloses_written (level + 1) first,
      List.forall_mem_singleton.2 (encloses_written (level + 1) second)⟩) level
  | .knot _ body => exact encloses_written level body
  | .again _ _ => exact Encloses.word "null" (by decide)

theorem encloses_writtenItems (level : Nat) (items : List Value) :
    ∀ part ∈ Json.writtenItems Json.literalStyle level items, Encloses (!isMark ·) part := by
  match items with
  | [] => exact fun _ member => absurd member List.not_mem_nil
  | item :: rest =>
    exact List.forall_mem_cons.2 ⟨encloses_written level item, encloses_writtenItems level rest⟩

theorem encloses_writtenEntries (level : Nat) (entries : List (Scalar × Value)) :
    ∀ part ∈ Json.writtenEntries Json.literalStyle level entries, Encloses (!isMark ·) part := by
  match entries with
  | [] => exact fun _ member => absurd member List.not_mem_nil
  | (key, item) :: rest =>
    have here := ((encloses_writtenKey Json.literalStyle.asciiOnly key).append
      (Encloses.word ": " (by decide))).append (encloses_written level item)
    exact List.forall_mem_cons.2 ⟨here, encloses_writtenEntries level rest⟩

end

end TypeText

end ClientModel
