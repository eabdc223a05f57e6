/-
This file says which headers a request has. The names of headers compare without regard to the case
of their letters, but a map of headers tells its keys apart by every letter. So a header of the
caller takes the place of a default only where it is spelled like it; the name of the program alone
is looked for in every case before. The main statement is that a request has all headers of its
caller, that the program names itself only where the caller does not, and that no name is sent twice
exactly if the caller spells the accepted formats as the default does.
-/

import ClientModel.Proofs.Headers
import ClientModel.Text.LowerCase

namespace ClientModel

/-! ### Writing entries into a map -/

namespace Ordered

variable {Key Item : Type} [BEq Key] [LawfulBEq Key]

/-- A write puts its entry beside those with other keys. -/
theorem perm_put {entries : List (Key × Item)} (distinct : (entries.map Prod.fst).Nodup)
    (key : Key) (item : Item) :
    (put key item entries).Perm ((key, item) :: entries.filter (·.1 != key)) := by
  induction entries with
  | nil => exact .refl _
  | cons entry rest inductionHypothesis =>
    obtain ⟨key', item'⟩ := entry
    rw [List.map_cons, List.nodup_cons] at distinct
    by_cases same : key' = key
    · subst same
      have others : rest.filter (·.1 != key') = rest := by
        refine List.filter_eq_self.2 fun entry member => bne_iff_ne.2 fun equal => ?_
        exact distinct.1 (List.mem_map.2 ⟨entry, member, equal⟩)
      simp [put, putBy, others]
    · have further := inductionHypothesis distinct.2
      simp only [put, putBy, beq_iff_eq, same, if_false, List.filter_cons, bne_iff_ne, ne_eq,
        not_false_eq_true, if_true] at further ⊢
      exact (further.cons _).trans (.swap _ _ _)

theorem nodup_keys_put {entries : List (Key × Item)} (distinct : (entries.map Prod.fst).Nodup)
    (key : Key) (item : Item) : ((put key item entries).map Prod.fst).Nodup := by
  rw [keys_put]
  split
  · exact distinct
  · next fresh =>
    refine List.nodup_append.2 ⟨distinct, List.nodup_singleton key, ?_⟩
    rintro other member _ only rfl
    exact fresh (List.mem_singleton.1 only ▸ member)

/-- Entries with distinct keys that are written into a map are there beside what the map had under
other keys. -/
theorem perm_foldl_put {entries before : List (Key × Item)}
    (distinct : (entries.map Prod.fst).Nodup) (distinct' : (before.map Prod.fst).Nodup) :
    (entries.foldl (fun written entry => put entry.1 entry.2 written) before).Perm
      (before.filter (!(entries.map Prod.fst).contains ·.1) ++ entries) := by
  induction entries generalizing before with
  | nil => simp
  | cons entry rest inductionHypothesis =>
    obtain ⟨key, item⟩ := entry
    rw [List.map_cons, List.nodup_cons] at distinct
    have later := inductionHypothesis distinct.2 (nodup_keys_put distinct' key item)
    have here := (perm_put distinct' key item).filter (!(rest.map Prod.fst).contains ·.1)
    rw [List.filter_cons_of_pos (by simpa using distinct.1), List.filter_filter] at here
    have kept : before.filter (fun entry =>
        !(rest.map Prod.fst).contains entry.1 && entry.1 != key) =
          before.filter (!(((key, item) :: rest).map Prod.fst).contains ·.1) := by
      refine List.filter_congr fun entry _ => ?_
      rw [List.map_cons, List.contains_cons, Bool.not_or, Bool.and_comm]
      rfl
    rw [kept] at here
    exact later.trans ((here.append_right rest).trans (List.perm_middle.symm))

end Ordered

namespace Text

/-! ### Small letters of ASCII -/

/-- A run of capitals stands in ASCII, or has all of its small letters outside. One capital alone
leads into ASCII: the small letter of the Kelvin sign is k. -/
def staysOutside (run : Nat × Nat × Nat × Nat) : Bool :=
  let (first, last, _, small) := run
  last < 0x80 || first == 0x212A && last == 0x212A && small == 0x6B ||
    0x80 ≤ small &&
      (small + (last - first) < 0xD800 || 0xE000 ≤ small && small + (last - first) < 0x110000)

theorem staysOutside_of_mem : ∀ run ∈ capitalRuns, staysOutside run = true :=
  Array.all_eq_true_iff_forall_mem.1 (by decide +kernel)

/-- A capital outside ASCII has its small letter there as well, or is the Kelvin sign. -/
theorem lowerCharacter_of_outside {character : Char} (outside : 0x80 ≤ character.toNat) :
    lowerCharacter character = 'k' ∨ 0x80 ≤ (lowerCharacter character).toNat := by
  unfold lowerCharacter
  dsimp only
  split
  · next first last step small found =>
    have kept := staysOutside_of_mem _ (Array.mem_of_find?_eq_some found)
    have within := Array.find?_some found
    simp only [staysOutside, Bool.or_eq_true, Bool.and_eq_true, decide_eq_true_eq, beq_iff_eq]
      at kept within
    rcases kept with (early | ⟨⟨rfl, rfl⟩, rfl⟩) | ⟨far, valid⟩
    · omega
    · have same : character.toNat = 0x212A := by omega
      rw [same]
      exact Or.inl (by decide)
    · have bounds : (small + (character.toNat - first)).isValidChar := by
        unfold Nat.isValidChar
        omega
      have code : (Char.ofNat (small + (character.toNat - first))).toNat =
          small + (character.toNat - first) := by
        rw [Char.ofNat, dif_pos bounds]
        rfl
      omega
  · exact Or.inr outside

/-- A character of ASCII that comes from no character outside when letters are made small. -/
def isOwn (character : Char) : Bool :=
  character.toNat < 0x80 && character != 'i' && character != 'k'

theorem isOwn_iff (character : Char) :
    isOwn character = true ↔ character.toNat < 0x80 ∧ character ≠ 'i' ∧ character ≠ 'k' := by
  simp [isOwn, and_assoc]

/-- Outside ASCII, no small form starts with such a character. -/
theorem exists_lowerBetween_of_outside {character : Char} (outside : 0x80 ≤ character.toNat)
    (before behind : List Char) :
    ∃ first rest, lowerBetween before character behind = first :: rest ∧ isOwn first = false := by
  unfold lowerBetween
  rw [if_neg (by omega)]
  split
  · exact ⟨_, _, rfl, by decide⟩
  · split
    · refine ⟨_, _, rfl, ?_⟩
      split <;> decide
    · refine ⟨_, _, rfl, ?_⟩
      rw [← Bool.not_eq_true, isOwn_iff]
      rintro ⟨near, _, notKelvin⟩
      rcases lowerCharacter_of_outside outside with kelvin | far
      · exact notKelvin kelvin
      · omega

theorem toLower_of_outside {character : Char} (outside : 0x80 ≤ character.toNat) :
    character.toLower = character := by
  refine dif_neg fun within => ?_
  have below : character.toNat ≤ 90 := within.2
  omega

/-- The induction goes along the name and the word together. A character outside ASCII ends it,
since no form of it is the next character of the word. -/
theorem lowerFrom_eq_iff {name word : List Char}
    (own : ∀ character ∈ word, isOwn character = true) (before : List Char) :
    lowerFrom before name = word ↔ name.map Char.toLower = word := by
  induction name generalizing before word with
  | nil => rfl
  | cons character behind inductionHypothesis =>
    rw [lowerFrom, List.map_cons]
    by_cases inside : character.toNat < 0x80
    · rw [lowerBetween, if_pos inside, List.singleton_append]
      cases word with
      | nil => simp
      | cons first rest =>
        rw [List.cons.injEq, List.cons.injEq,
          inductionHypothesis (fun other member => own other (List.mem_cons_of_mem _ member))]
    · obtain ⟨first, rest, same, other⟩ :=
        exists_lowerBetween_of_outside (Nat.le_of_not_lt inside) before behind
      rw [same, toLower_of_outside (Nat.le_of_not_lt inside)]
      refine iff_of_false ?_ ?_
      · rintro rfl
        rw [own first List.mem_cons_self] at other
        cases other
      · rintro rfl
        exact inside ((isOwn_iff character).1 (own character List.mem_cons_self)).1

/-- Where a word has such characters only, it is enough to make the letters of ASCII small. -/
theorem lowerCase_eq_iff {name word : List Char}
    (own : ∀ character ∈ word, isOwn character = true) :
    lowerCase name = word ↔ name.map Char.toLower = word :=
  lowerFrom_eq_iff own []

end Text

/-! ### Names of headers -/

namespace Request

/-- The name of a header without regard to the case of its letters, in any script. -/
def foldedName (name : String) : List Char := Text.lowerCase name.toList

/-- Whether headers have one of a name, in whatever case its letters are. -/
def gives (headers : Headers) (name : String) : Bool :=
  headers.any fun header => foldedName header.1 == foldedName name

theorem gives_iff (headers : Headers) (name : String) :
    gives headers name = true ↔ ∃ header ∈ headers, foldedName header.1 = foldedName name := by
  simp [gives]

/-- Headers name the program exactly where they have one of that name, in any case. -/
theorem namesAgent_eq_gives (headers : Headers) :
    namesAgent headers = gives headers agentHeader.1 := by
  have own : ∀ character ∈ "user-agent".toList, Text.isOwn character = true :=
    List.all_eq_true.1 (by decide)
  have folded : foldedName agentHeader.1 = "user-agent".toList := by decide
  refine congrArg headers.any (funext fun header => ?_)
  rw [Bool.eq_iff_iff, beq_iff_eq, beq_iff_eq, folded, foldedName, Text.lowerCase_eq_iff own]
  rfl

/-- No two headers have the same name, whatever the case of its letters. -/
def AreApart (headers : Headers) : Prop :=
  (headers.map fun header => foldedName header.1).Nodup

instance (headers : Headers) : Decidable (AreApart headers) :=
  inferInstanceAs (Decidable (List.Nodup _))

theorem AreApart.eq {headers : Headers} (apart : AreApart headers) {header other : String × String}
    (member : header ∈ headers) (member' : other ∈ headers)
    (same : foldedName header.1 = foldedName other.1) : header = other :=
  List.inj_on_of_nodup_map apart member member' same

theorem AreApart.distinct {headers : Headers} (apart : AreApart headers) :
    (headers.map Prod.fst).Nodup := by
  refine List.Nodup.of_map foldedName ?_
  rw [List.map_map]
  exact apart

/-! ### Headers that are sent -/

/-- Beside the headers of the caller, the accepted formats are sent where the caller has none that
is spelled like them, and the name of the program where the caller has none in any case. -/
theorem perm_allHeaders {headers : Headers} (distinct : (headers.map Prod.fst).Nodup) :
    (allHeaders headers).Perm
      ([acceptHeader].filter (!(headers.map Prod.fst).contains ·.1) ++
        [agentHeader].filter (!gives headers ·.1) ++ headers) := by
  have defaults : (defaultHeaders headers).filter (!(headers.map Prod.fst).contains ·.1) =
      [acceptHeader].filter (!(headers.map Prod.fst).contains ·.1) ++
        [agentHeader].filter (!gives headers ·.1) := by
    unfold defaultHeaders
    rw [namesAgent_eq_gives]
    cases given : gives headers agentHeader.1 with
    | true => simp [given]
    | false =>
      have absent : agentHeader.1 ∉ headers.map Prod.fst := fun member => by
        obtain ⟨header, among, same⟩ := List.mem_map.1 member
        rw [(gives_iff _ _).2 ⟨header, among, congrArg foldedName same⟩] at given
        cases given
      rw [if_neg Bool.false_ne_true, ← List.singleton_append, List.filter_append]
      simp [given, absent]
  rw [← defaults]
  refine Ordered.perm_foldl_put distinct ?_
  unfold defaultHeaders
  split <;> decide

/-- The headers of a request in which a default gives way to a header of its name in any case. -/
def replacedHeaders (headers : Headers) : Headers :=
  [acceptHeader, agentHeader].filter (!gives headers ·.1) ++ headers

theorem AreApart.replacedHeaders {headers : Headers} (apart : AreApart headers) :
    AreApart (replacedHeaders headers) := by
  have defaults : AreApart [acceptHeader, agentHeader] := by decide
  unfold AreApart Request.replacedHeaders
  rw [List.map_append]
  refine List.nodup_append.2 ⟨defaults.sublist (List.filter_sublist.map _), apart, ?_⟩
  rintro name default _ given rfl
  obtain ⟨header, kept, rfl⟩ := List.mem_map.1 default
  obtain ⟨other, member, same⟩ := List.mem_map.1 given
  have absent := (List.mem_filter.1 kept).2
  rw [(gives_iff _ _).2 ⟨other, member, same⟩] at absent
  cases absent

/-- The accepted formats are given under another spelling of their name. -/
def RespellsAccept (headers : Headers) : Prop :=
  ∃ header ∈ headers, foldedName header.1 = foldedName acceptHeader.1 ∧ header.1 ≠ acceptHeader.1

section

variable {headers : Headers} (apart : AreApart headers)

include apart

/-- Some header has the name of the accepted formats as the default spells it. -/
theorem exists_accept : ∃ header ∈ allHeaders headers, header.1 = acceptHeader.1 := by
  have sent := perm_allHeaders apart.distinct
  by_cases given : acceptHeader.1 ∈ headers.map Prod.fst
  · obtain ⟨header, member, same⟩ := List.mem_map.1 given
    exact ⟨header, sent.mem_iff.2 (List.mem_append_right _ member), same⟩
  · have kept : acceptHeader ∈ [acceptHeader].filter (!(headers.map Prod.fst).contains ·.1) :=
      List.mem_filter.2 ⟨List.mem_singleton_self _, by simpa using given⟩
    exact ⟨acceptHeader, sent.mem_iff.2 (by simp only [List.mem_append, kept, true_or]), rfl⟩

/-- Where the caller does not respell it, the default gives way in every case. -/
theorem perm_replacedHeaders (spelled : ¬ RespellsAccept headers) :
    (allHeaders headers).Perm (replacedHeaders headers) := by
  have same : (headers.map Prod.fst).contains acceptHeader.1 = gives headers acceptHeader.1 := by
    rw [Bool.eq_iff_iff, List.contains_iff_mem, gives_iff, List.mem_map]
    refine exists_congr fun header => and_congr_right fun member => ⟨congrArg foldedName, ?_⟩
    exact fun folded => not_not.1 fun other => spelled ⟨header, member, folded, other⟩
  have kept : [acceptHeader].filter (!(headers.map Prod.fst).contains ·.1) =
      [acceptHeader].filter (!gives headers ·.1) := by
    rw [List.filter_singleton, List.filter_singleton, same]
  refine (perm_allHeaders apart.distinct).trans (.of_eq ?_)
  rw [kept, ← List.filter_append]
  rfl

/-- No name is sent twice exactly where the caller does not respell that of the accepted formats. -/
theorem areApart_allHeaders_iff : AreApart (allHeaders headers) ↔ ¬ RespellsAccept headers := by
  refine ⟨fun apart' => ?_, fun spelled => ?_⟩
  · rintro ⟨header, member, folded, other⟩
    have sent : header ∈ allHeaders headers :=
      (perm_allHeaders apart.distinct).mem_iff.2 (List.mem_append_right _ member)
    obtain ⟨accept, here, name⟩ := exists_accept apart
    rw [apart'.eq sent here (folded.trans (congrArg foldedName name.symm))] at other
    exact other name
  · have names := (perm_replacedHeaders apart spelled).map fun header => foldedName header.1
    exact names.nodup_iff.2 apart.replacedHeaders

end

/-- Among headers whose names differ by more than case, each is sent with its value. The program
names itself where none of them does so in any case. The accepted formats are sent where none is
spelled like them: so no name is sent twice, and every default gives way to a header of its name in
any case, exactly if none spells the name of the accepted formats in another case. -/
theorem headers_forDocument {headers : Headers} (apart : AreApart headers) (url : String)
    (timeout : Binary64) :
    let sent := (forDocument url headers timeout).headers
    (∀ header ∈ headers, Ordered.get? header.1 sent = some header.2) ∧
    sent.Perm ([acceptHeader].filter (!(headers.map Prod.fst).contains ·.1) ++
      [agentHeader].filter (!gives headers ·.1) ++ headers) ∧
    (AreApart sent ↔ ¬ RespellsAccept headers) ∧
    (sent.Perm (replacedHeaders headers) ↔ ¬ RespellsAccept headers) := by
  intro sent
  have spelled := areApart_allHeaders_iff apart
  refine ⟨fun header member => Ordered.get?_foldl_put apart.distinct member _,
    perm_allHeaders apart.distinct, spelled, fun same => spelled.1 ?_,
    perm_replacedHeaders apart⟩
  have names := same.map fun header => foldedName header.1
  exact names.nodup_iff.2 apart.replacedHeaders

/-- A caller that names itself in small letters. -/
theorem headers_forDocument_agent :
    let headers := [("user-agent", "custom/1.0"), ("X-Key", "1")]
    AreApart headers ∧
      (forDocument "http://petstore/" headers (Binary64.ofInt 30)).headers.Perm
        (acceptHeader :: headers) := by
  intro headers
  have apart : AreApart headers := by decide
  have spelled : ¬ RespellsAccept headers := by
    unfold RespellsAccept
    decide
  have kept : replacedHeaders headers = acceptHeader :: headers := by decide
  have all := headers_forDocument apart "http://petstore/" (Binary64.ofInt 30)
  exact ⟨apart, kept ▸ all.2.2.2.2 spelled⟩

/-- A caller that asks for other formats, in small letters, sends both. -/
theorem not_areApart_headers_forDocument :
    let headers := [("accept", "text/x")]
    AreApart headers ∧
      let sent := (forDocument "http://petstore/" headers (Binary64.ofInt 30)).headers
      acceptHeader ∈ sent ∧ ("accept", "text/x") ∈ sent ∧ ¬ AreApart sent := by
  refine ⟨by decide, by decide, by decide, by decide⟩

end Request

end ClientModel
