/-
This file proves that JSON text is read as a tidy JSON value: its numbers are numbers of the format,
and each map has each of its keys once. The numbers, words and texts that tokens carry are JSON
scalars: an integer of too many digits is no token of a number. The main statements are that each
step of the reading keeps everything that is open tidy, and that so does the reading of a whole
text.
-/

import ClientModel.Json.Reader
import ClientModel.Proofs.Outcome
import ClientModel.Proofs.Rounding
import ClientModel.Proofs.Success

namespace ClientModel

/-! ### Numerals -/

namespace Text

theorem foldl_digits_lt {digits : List Char} (right : ∀ digit ∈ digits, isAsciiDigit digit = true)
    (start : Nat) :
    digits.foldl (fun value digit => value * 10 + (digit.toNat - 48)) start <
      (start + 1) * Nat.pow 10 digits.length := by
  induction digits generalizing start with
  | nil => exact Nat.lt_of_lt_of_eq (Nat.lt_succ_self start) (Nat.mul_one _).symm
  | cons digit rest inductionHypothesis =>
    have digitRight := right digit List.mem_cons_self
    simp only [isAsciiDigit, Bool.and_eq_true, decide_eq_true_eq] at digitRight
    have upper : digit.toNat ≤ 57 := digitRight.2
    have further := inductionHypothesis (fun other member =>
      right other (List.mem_cons_of_mem _ member)) (start * 10 + (digit.toNat - 48))
    have smaller : start * 10 + (digit.toNat - 48) + 1 ≤ (start + 1) * 10 := by omega
    calc rest.foldl (fun value digit => value * 10 + (digit.toNat - 48))
          (start * 10 + (digit.toNat - 48))
        < (start * 10 + (digit.toNat - 48) + 1) * Nat.pow 10 rest.length := further
      _ ≤ (start + 1) * 10 * Nat.pow 10 rest.length := Nat.mul_le_mul_right _ smaller
      _ = (start + 1) * Nat.pow 10 (rest.length + 1) := by
        rw [Nat.mul_assoc, Nat.mul_comm 10]
        rfl

theorem naturalOf_lt {digits : List Char} (right : ∀ digit ∈ digits, isAsciiDigit digit = true)
    {bound : Nat} (short : digits.length ≤ bound) : naturalOf digits < Nat.pow 10 bound :=
  calc naturalOf digits < (0 + 1) * Nat.pow 10 digits.length := foldl_digits_lt right 0
    _ = Nat.pow 10 digits.length := Nat.one_mul _
    _ ≤ Nat.pow 10 bound := Nat.pow_le_pow_right (by omega) short

/-- A numeral of no more digits than are read is no long integer. -/
theorem isLongInteger_naturalOf {digits : List Char}
    (right : ∀ digit ∈ digits, isAsciiDigit digit = true)
    (short : digits.length ≤ longestInteger) (negative : Bool) :
    isLongInteger (if negative then -(naturalOf digits : Int) else naturalOf digits) = false := by
  have magnitude : (if negative then -(naturalOf digits : Int) else naturalOf digits).natAbs =
      naturalOf digits := by
    cases negative <;> simp
  rw [isLongInteger, magnitude, decide_eq_false_iff_not]
  exact Nat.not_le.2 (naturalOf_lt right short)

end Text

/-- What stands in a map after a write was written or stood there before. -/
theorem Ordered.eq_or_mem_of_mem_put {Key Item : Type} [BEq Key] [LawfulBEq Key] {key : Key}
    {item : Item} {entries : List (Key × Item)} {entry : Key × Item}
    (member : entry ∈ put key item entries) : entry = (key, item) ∨ entry ∈ entries := by
  induction entries with
  | nil => exact Or.inl (List.mem_singleton.1 member)
  | cons first rest inductionHypothesis =>
    obtain ⟨key', item'⟩ := first
    by_cases same : key' = key
    · simp only [put, putBy, same, beq_self_eq_true, ↓reduceIte, List.mem_cons] at member
      exact member.imp_right (List.mem_cons_of_mem _)
    · simp only [put, putBy, beq_iff_eq, same, ↓reduceIte, List.mem_cons] at member
      rcases member with here | further
      · exact Or.inr (List.mem_cons.2 (Or.inl here))
      · exact (inductionHypothesis further).imp_right (List.mem_cons_of_mem _)

/-! ### Tidy values -/

/-- A JSON scalar that is a number of the format if it is a float. -/
def Scalar.IsTidy : Scalar → Prop
  | .float number => number.IsProper
  | content => content.isJson = true

/-- Whether the keys of entries are different texts. -/
def Entries.AreTidyKeys (entries : Entries) : Prop :=
  (∀ entry ∈ entries, entry.1.isJsonKey = true) ∧ (entries.map Prod.fst).Nodup

/-- A value of tidy scalars whose maps have each key once. -/
inductive Value.IsTidy : Value → Prop
  | scalar {content : Scalar} (right : content.IsTidy) : IsTidy (.scalar content)
  | list {items : List Value} (each : ∀ item ∈ items, IsTidy item) : IsTidy (.list items)
  | map {entries : Entries} (keys : entries.AreTidyKeys)
    (each : ∀ entry ∈ entries, IsTidy entry.2) : IsTidy (.map entries)

theorem Scalar.isJson_of_isTidy {content : Scalar} (tidy : content.IsTidy) :
    content.isJson = true := by
  cases content <;> first | exact tidy | rfl

theorem Value.isJson_of_isTidy {value : Value} (tidy : value.IsTidy) : value.isJson = true := by
  induction tidy with
  | scalar right => exact Scalar.isJson_of_isTidy right
  | list _ each => exact (areJson_iff _).2 each
  | map keys _ each =>
    exact (areAllJson_iff _).2 fun entry member => ⟨keys.1 entry member, each entry member⟩

/-- Entries of tidy items under different texts. -/
structure Entries.AreTidy (entries : Entries) : Prop where
  keys : entries.AreTidyKeys
  items : ∀ entry ∈ entries, entry.2.IsTidy

/-- Among keys that are texts, a text is the same key as an equal one alone. -/
theorem Scalar.sameKey_string_iff {key : Scalar} (text : key.isJsonKey = true) (name : String) :
    key.sameKey (.string name) = true ↔ key = .string name := by
  cases key with
  | string other => simp [sameKey]
  | null | bool _ | int _ | float _ | date _ | timestamp _ | binary _ => cases text

/-- Writing under a text is writing under a key that is compared by equality. -/
theorem Entries.write_eq_put {entries : Entries}
    (texts : ∀ entry ∈ entries, entry.1.isJsonKey = true) (name : String) (item : Value) :
    Entries.write (.string name) item entries = Ordered.put (.string name) item entries := by
  induction entries with
  | nil => rfl
  | cons entry rest inductionHypothesis =>
    obtain ⟨key, item'⟩ := entry
    obtain ⟨text, texts⟩ := List.forall_mem_cons.1 texts
    have same : key.sameKey (.string name) = (key == .string name) := by
      rw [Bool.eq_iff_iff, Scalar.sameKey_string_iff text, beq_iff_eq]
    simp only [write, Ordered.putBy, Ordered.put] at inductionHypothesis ⊢
    rw [same, inductionHypothesis texts]

/-- Writing a tidy item under a text leaves tidy entries. -/
theorem Entries.AreTidy.write {entries : Entries} (tidy : entries.AreTidy) (name : String)
    {item : Value} (right : item.IsTidy) : (Entries.write (.string name) item entries).AreTidy := by
  obtain ⟨⟨texts, distinct⟩, items⟩ := tidy
  rw [write_eq_put texts]
  have among : ∀ entry ∈ Ordered.put (.string name) item entries,
      entry.1.isJsonKey = true ∧ entry.2.IsTidy := by
    intro entry member
    rcases Ordered.eq_or_mem_of_mem_put member with rfl | before
    · exact ⟨rfl, right⟩
    · exact ⟨texts entry before, items entry before⟩
  refine ⟨⟨fun entry member => (among entry member).1, ?_⟩,
    fun entry member => (among entry member).2⟩
  rw [Ordered.keys_put]
  split
  · exact distinct
  · next fresh =>
    refine List.nodup_append.2 ⟨distinct, List.nodup_singleton _, ?_⟩
    intro key member other last same
    exact fresh (List.mem_singleton.1 last ▸ same ▸ member)

namespace Json

/-! ### Tokens -/

/-- A token that carries a scalar carries a tidy one. -/
def Token.IsTidy : Token → Prop
  | .scalar content => content.IsTidy
  | _ => True

theorem isAsciiDigit_of_mem_wholeDigits {characters : List Char} {digit : Char}
    (member : digit ∈ wholeDigits characters) : Text.isAsciiDigit digit = true := by
  unfold wholeDigits at member
  split at member
  · rw [List.mem_singleton.1 member]
    rfl
  · exact List.all_eq_true.1 List.all_takeWhile digit member

theorem isTidy_int {value : Int} (short : Text.isLongInteger value = false) :
    (Scalar.int value).IsTidy := by
  show (!Text.isLongInteger value) = true
  rw [short]
  rfl

theorem isTidy_of_readNumber? {negative : Bool} {characters : List Char} {token : Token}
    {length : Nat} (found : readNumber? negative characters = some (token, length)) :
    token.IsTidy := by
  simp only [readNumber?] at found
  split at found
  · cases found
  · split at found
    · cases found
      exact Binary64.isProper_ofParts _ _ _ _
    · split at found
      · cases found
        exact Binary64.isProper_ofParts _ _ _ _
      · split at found
        · cases found
          trivial
        · next short =>
          cases found
          exact isTidy_int (Text.isLongInteger_naturalOf
            (fun _ => isAsciiDigit_of_mem_wholeDigits) (Nat.not_lt.1 short) negative)

theorem isTidy_of_wordAt? {characters : List Char} {token : Token} {length : Nat}
    (found : wordAt? characters = some (token, length)) : token.IsTidy := by
  obtain ⟨word, among, same⟩ := Option.map_eq_some_iff.1 found
  cases same
  have all : ∀ word ∈ words, word.2.IsTidy := by
    simp [words, Scalar.IsTidy, Scalar.isJson, Binary64.IsProper]
  exact all word (List.mem_of_find?_eq_some among)

theorem isTidy_plainTokenAt (characters : List Char) : (plainTokenAt characters).1.IsTidy := by
  unfold plainTokenAt
  split
  · next found => exact isTidy_of_wordAt? found
  · split
    · split
      · next found => exact isTidy_of_readNumber? found
      · trivial
    · cases found : readNumber? false characters with
      | none => trivial
      | some read => exact isTidy_of_readNumber? found

theorem isTidy_tokenAt (position : Nat) (character : Char) (rest : List Char) :
    (tokenAt position character rest).1.IsTidy := by
  unfold tokenAt
  split
  all_goals first | trivial | skip
  · split <;> trivial
  · exact isTidy_plainTokenAt _

/-- Every token of a text is the token at some place of it. -/
theorem exists_tokenAt_of_mem_tokensFrom (characters : List Char) (skip start : Nat)
    {token : Token × Nat} (member : token ∈ tokensFrom skip start characters) :
    ∃ front character rest, characters = front ++ character :: rest ∧
      token.1 = (tokenAt token.2 character rest).1 := by
  induction characters generalizing skip start with
  | nil =>
    cases skip <;> exact absurd member List.not_mem_nil
  | cons character rest inductionHypothesis =>
    have further {skip : Nat} (later : token ∈ tokensFrom skip (start + 1) rest) :
        ∃ front other back, character :: rest = front ++ other :: back ∧
          token.1 = (tokenAt token.2 other back).1 := by
      obtain ⟨front, other, back, rfl, same⟩ := inductionHypothesis _ _ later
      exact ⟨character :: front, other, back, rfl, same⟩
    cases skip with
    | succ skip => exact further member
    | zero =>
      rw [tokensFrom] at member
      split at member
      · exact further member
      · rcases List.mem_cons.1 member with rfl | later
        · exact ⟨[], character, rest, rfl, rfl⟩
        · exact further later

theorem isTidy_of_mem_tokensFrom (characters : List Char) (skip position : Nat)
    {token : Token × Nat} (member : token ∈ tokensFrom skip position characters) :
    token.1.IsTidy := by
  obtain ⟨_, character, rest, _, same⟩ := exists_tokenAt_of_mem_tokensFrom _ _ _ member
  rw [same]
  exact isTidy_tokenAt _ _ _

/-! ### States -/

/-- An open list or map that holds tidy values so far. -/
def Frame.IsTidy : Frame → Prop
  | .list done => ∀ item ∈ done, item.IsTidy
  | .map done _ => done.AreTidy

/-- What was read before what may come next is tidy. -/
def Expected.IsTidy : Expected → Prop
  | .key done | .colon done _ => done.AreTidy
  | .following complete => complete.IsTidy
  | .value | .itemOrEnd | .keyOrEnd => True

/-- A state in which everything that was read is tidy. -/
structure Reading.IsTidy (reading : Reading) : Prop where
  expected : reading.expected.IsTidy
  stack : ∀ frame ∈ reading.stack, frame.IsTidy

theorem areTidy_nil : Entries.AreTidy [] :=
  ⟨⟨nofun, List.nodup_nil⟩, nofun⟩

section

variable {stack : List Frame} (tidy : ∀ frame ∈ stack, frame.IsTidy)

include tidy

theorem ends_opening {expected : Expected} (right : expected.IsTidy) :
    Ends Reading.IsTidy (fun _ => True) (opening expected stack) := by
  unfold opening
  split
  · trivial
  · exact ⟨right, tidy⟩

theorem ends_stepValue (position : Nat) {token : Token} (right : token.IsTidy) :
    Ends Reading.IsTidy (fun _ => True) (stepValue stack position token) := by
  unfold stepValue
  split
  · exact ends_opening tidy trivial
  · exact ends_opening tidy trivial
  · exact ⟨.scalar rfl, tidy⟩
  · exact ⟨.scalar right, tidy⟩
  all_goals trivial

theorem ends_stepKey {done : Entries} (before : done.AreTidy) (position : Nat)
    (token : Token) :
    Ends Reading.IsTidy (fun _ => True) (stepKey done stack position token) := by
  unfold stepKey
  split
  · exact ⟨before, tidy⟩
  all_goals trivial

/-- What follows a complete value closes what is open around it, or goes on with it. -/
theorem ends_stepFollowing {complete : Value} (right : complete.IsTidy) (position : Nat)
    (token : Token) :
    Ends Reading.IsTidy (fun _ => True) (stepFollowing complete position stack token) := by
  unfold stepFollowing
  split
  · next done stack =>
    obtain ⟨before, others⟩ := List.forall_mem_cons.1 tidy
    exact ⟨trivial, List.forall_mem_cons.2 ⟨List.forall_mem_cons.2 ⟨right, before⟩, others⟩⟩
  · next done stack =>
    obtain ⟨before, others⟩ := List.forall_mem_cons.1 tidy
    refine ⟨.list fun item member => ?_, others⟩
    exact List.forall_mem_cons.2 ⟨right, before⟩ item (List.mem_reverse.1 member)
  · next done key stack =>
    obtain ⟨before, others⟩ := List.forall_mem_cons.1 tidy
    exact ⟨before.write key right, others⟩
  · next done key stack =>
    obtain ⟨before, others⟩ := List.forall_mem_cons.1 tidy
    have written := before.write key right
    exact ⟨.map written.keys written.items, others⟩
  all_goals trivial

end

/-- One token keeps everything that was read tidy. -/
theorem ends_step {reading : Reading} (tidy : reading.IsTidy) {token : Token × Nat}
    (right : token.1.IsTidy) : Ends Reading.IsTidy (fun _ => True) (step reading token) := by
  obtain ⟨before, stack⟩ := tidy
  have nested : ∀ frame ∈ Frame.list [] :: reading.stack, frame.IsTidy :=
    List.forall_mem_cons.2 ⟨nofun, stack⟩
  unfold step
  split
  · exact ends_stepValue stack _ right
  · exact ⟨.list nofun, stack⟩
  · exact ends_stepValue nested _ right
  · next here =>
    rw [here] at before
    exact ends_stepKey stack before _ _
  · exact ⟨.map areTidy_nil.keys nofun, stack⟩
  · exact ends_stepKey stack areTidy_nil _ _
  · next here _ =>
    rw [here] at before
    exact ⟨trivial, List.forall_mem_cons.2 ⟨before, stack⟩⟩
  · trivial
  · next here =>
    rw [here] at before
    exact ends_stepFollowing stack before _ _

theorem ends_finish {reading : Reading} (tidy : reading.IsTidy) (length : Nat) :
    Ends Value.IsTidy (fun _ => True) (reading.finish length) := by
  obtain ⟨expected, stack⟩ := tidy
  unfold Reading.finish
  split
  · next complete here _ =>
    rw [here] at expected
    exact expected
  · trivial

/-- JSON text is read as a tidy value. -/
theorem isTidy_of_read {text : String} {value : Value} (found : read text = .ok value) :
    value.IsTidy := by
  have start : Reading.start.IsTidy := ⟨trivial, fun _ member => absurd member List.not_mem_nil⟩
  have whole (length : Nat) (characters : List Char) :
      Ends Value.IsTidy (fun _ => True) (readTokens length (tokens characters)) :=
    (Ends.foldlM (fun _ tidy _ member => ends_step tidy (isTidy_of_mem_tokensFrom _ _ _ member))
      start).bind fun _ tidy => ends_finish tidy length
  unfold read readCharacters at found
  split at found
  · cases found
  · exact (whole _ _).of_ok found

/-- JSON text is read as a JSON value. -/
theorem isJson_of_read {text : String} {value : Value} (found : read text = .ok value) :
    value.isJson = true :=
  Value.isJson_of_isTidy (isTidy_of_read found)

end Json

end ClientModel
