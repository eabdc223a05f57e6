/-
This file proves that a value that was written as JSON text is read from that text. Reading is a
machine that takes one token after another, so the statements say from which state a piece of text
leads to which, whatever text follows it. The main statement is that the text of a tidy value, on
one line or indented, is read as that value.
-/

import ClientModel.Proofs.Headers
import ClientModel.Proofs.WrittenNumbers
import ClientModel.Proofs.WrittenTexts

namespace ClientModel

/-- A value in which lists and maps are nested in at most so many levels. -/
inductive Value.Nests : Nat → Value → Prop
  | scalar {room : Nat} (content : Scalar) : Nests room (.scalar content)
  | list {room : Nat} {items : List Value} (each : ∀ item ∈ items, Nests room item) :
    Nests (room + 1) (.list items)
  | map {room : Nat} {entries : Entries} (each : ∀ entry ∈ entries, Nests room entry.2) :
    Nests (room + 1) (.map entries)

namespace Json

/-! ### Pieces of text -/

/-- Goes on reading from a state. -/
def Reading.through (reading : Reading) (position : Nat) (characters : List Char) :
    Except Error Reading :=
  (tokensFrom 0 position characters).foldlM step reading

/-- A piece of text leads from one state to another, whatever follows it. -/
def Passes (before : Reading) (text : List Char) (after : Reading) : Prop :=
  ∀ position rest, before.through position (text ++ rest) =
    after.through (position + text.length) rest

/-- A piece of text leads from one state to another, where what follows does not go on with a
number. -/
def Advances (before : Reading) (text : List Char) (after : Reading) : Prop :=
  ∀ position rest, EndsNumber rest → before.through position (text ++ rest) =
    after.through (position + text.length) rest

section

variable {before between after : Reading} {front back : List Char}

theorem Passes.advances (passes : Passes before front after) : Advances before front after :=
  fun position rest _ => passes position rest

theorem passes_nil (reading : Reading) : Passes reading [] reading := fun _ _ => rfl

theorem Passes.append (first : Passes before front between) (second : Passes between back after) :
    Passes before (front ++ back) after := by
  intro position rest
  rw [List.append_assoc, first, second, List.length_append, Nat.add_assoc]

theorem Passes.append_advances (first : Passes before front between)
    (second : Advances between back after) : Advances before (front ++ back) after := by
  intro position rest ends
  rw [List.append_assoc, first, second _ _ ends, List.length_append, Nat.add_assoc]

/-- What follows a number and does not go on with it can be read after it. -/
theorem Advances.append (first : Advances before front between)
    (stops : ∀ rest, EndsNumber (back ++ rest)) (second : Passes between back after) :
    Passes before (front ++ back) after := by
  intro position rest
  rw [List.append_assoc, first _ _ (stops rest), second, List.length_append, Nat.add_assoc]

end

/-! ### Tokens -/

theorem tokensFrom_append (text : List Char) (position : Nat) (rest : List Char) :
    tokensFrom text.length position (text ++ rest) =
      tokensFrom 0 (position + text.length) rest := by
  induction text generalizing position with
  | nil => rfl
  | cons character text inductionHypothesis =>
    rw [List.length_cons, List.cons_append, tokensFrom, inductionHypothesis]
    congr 1
    omega

/-- A token leads where its step does. -/
theorem through_token {reading after : Reading} {position : Nat} {character : Char}
    (text : List Char) {rest : List Char} {token : Token} (visible : isSpace character = false)
    (starts : tokenAt position character (text ++ rest) = (token, text.length + 1))
    (stepped : step reading (token, position) = .ok after) :
    reading.through position (character :: text ++ rest) =
      after.through (position + (text.length + 1)) rest := by
  unfold Reading.through
  rw [List.cons_append, tokensFrom, if_neg (by simp [visible]), starts]
  dsimp only
  rw [Nat.add_sub_cancel, tokensFrom_append, List.foldlM_cons, stepped, Nat.add_assoc,
    Nat.add_comm 1]
  rfl

/-- Blanks lead nowhere. -/
theorem passes_blanks {blanks : List Char} (blank : ∀ character ∈ blanks, isSpace character = true)
    (reading : Reading) : Passes reading blanks reading := by
  induction blanks with
  | nil => exact passes_nil reading
  | cons character blanks inductionHypothesis =>
    obtain ⟨here, others⟩ := List.forall_mem_cons.1 blank
    intro position rest
    have further := inductionHypothesis others (position + 1) rest
    unfold Reading.through at further ⊢
    rw [List.cons_append, tokensFrom, if_pos here, further, List.length_cons, Nat.add_assoc,
      Nat.add_comm 1]

/-- A mark leads where its step does. -/
theorem passes_mark {mark : Char} {token : Token} (visible : isSpace mark = false)
    (starts : ∀ position rest, tokenAt position mark rest = (token, 1))
    {reading after : Reading}
    (stepped : ∀ position, step reading (token, position) = .ok after) :
    Passes reading [mark] after :=
  fun position rest => through_token [] visible (starts position rest) (stepped position)

/-! ### States -/

/-- A state in which a value may come, inside lists and maps that are open. -/
def Reading.AwaitsValue (reading : Reading) (stack : List Frame) : Prop :=
  ∀ token position, token ≠ .closeList →
    step reading (token, position) = stepValue stack position token

theorem awaitsValue_value (stack : List Frame) : Reading.AwaitsValue ⟨.value, stack⟩ stack :=
  fun _ _ _ => rfl

theorem awaitsValue_itemOrEnd (stack : List Frame) :
    Reading.AwaitsValue ⟨.itemOrEnd, stack⟩ (.list [] :: stack) := by
  intro token position other
  cases token <;> first | rfl | exact absurd rfl other

/-- A state in which a key of a map may come. -/
def Reading.AwaitsKey (reading : Reading) (done : Entries) (stack : List Frame) : Prop :=
  ∀ name position, step reading (.text name, position) = .ok ⟨.colon done name, stack⟩

theorem awaitsKey_key (done : Entries) (stack : List Frame) :
    Reading.AwaitsKey ⟨.key done, stack⟩ done stack :=
  fun _ _ => rfl

theorem awaitsKey_keyOrEnd (stack : List Frame) :
    Reading.AwaitsKey ⟨.keyOrEnd, stack⟩ [] stack :=
  fun _ _ => rfl

/-! ### Scalars -/

/-- A text between quotes is passed as its token. -/
theorem passes_writtenText {reading after : Reading} {name : String} (asciiOnly : Bool)
    (stepped : ∀ position, step reading (.text name, position) = .ok after) :
    Passes reading (writtenText asciiOnly name.toList) after := by
  intro position rest
  have starts := tokenAt_writtenText position asciiOnly name.toList rest
  have cut : writtenText asciiOnly name.toList =
      '"' :: (name.toList.flatMap (writtenCharacter asciiOnly) ++ ['"']) := rfl
  rw [String.ofList_toList] at starts
  rw [cut] at starts ⊢
  refine through_token _ rfl ?_ (stepped position)
  rw [List.append_assoc]
  exact starts

/-- What starts with a digit, a letter or a minus is no mark, no blank and no quote. -/
theorem tokenAt_eq_plainTokenAt {character : Char}
    (plain : character ∉ ['[', ']', '{', '}', ':', ',', '"']) (position : Nat) (rest : List Char) :
    tokenAt position character rest = plainTokenAt (character :: rest) := by
  simp only [List.mem_cons, List.not_mem_nil, or_false, not_or] at plain
  unfold tokenAt
  split <;> first | rfl | simp at plain

/-- A scalar that is no text is a plain token. -/
theorem plainTokenAt_writtenScalar {content : Scalar} (tidy : content.IsTidy) (asciiOnly : Bool)
    (notText : ∀ text, content ≠ .string text) {rest : List Char} (ends : EndsNumber rest) :
    plainTokenAt (writtenScalar asciiOnly content ++ rest) =
      (.scalar content, (writtenScalar asciiOnly content).length) := by
  cases content with
  | null => rfl
  | bool value => cases value <;> rfl
  | int value =>
    have short : Text.isLongInteger value = false := by
      simpa [Scalar.IsTidy, Scalar.isJson] using tidy
    exact plainTokenAt_int short ends
  | float value => exact plainTokenAt_float tidy ends
  | string text => exact absurd rfl (notText text)
  | date _ | timestamp _ | binary _ => cases tidy

/-- A mark or a blank starts no plain token. -/
theorem plainTokenAt_foreign {character : Char}
    (other : character ∈ ['[', ']', '{', '}', ':', ',', '"', ' ', '\t', '\n', '\r'])
    (rest : List Char) : plainTokenAt (character :: rest) = (.foreign, 1) := by
  simp only [List.mem_cons, List.not_mem_nil, or_false] at other
  rcases other with rfl | rfl | rfl | rfl | rfl | rfl | rfl | rfl | rfl | rfl | rfl <;> rfl

/-- A scalar that is no text is read where a value may come. -/
theorem advances_writtenScalar {content : Scalar} (tidy : content.IsTidy) (asciiOnly : Bool)
    (notText : ∀ text, content ≠ .string text) {reading : Reading} {stack : List Frame}
    (awaits : reading.AwaitsValue stack) :
    Advances reading (writtenScalar asciiOnly content) ⟨.following (.scalar content), stack⟩ := by
  have read {rest : List Char} (ends : EndsNumber rest) :=
    plainTokenAt_writtenScalar tidy asciiOnly notText ends
  cases written : writtenScalar asciiOnly content with
  | nil =>
    rw [written] at read
    exact absurd (read endsNumber_nil) nofun
  | cons character text =>
    rw [written] at read
    have plain : character ∉ ['[', ']', '{', '}', ':', ',', '"', ' ', '\t', '\n', '\r'] := by
      intro mark
      have foreign := read endsNumber_nil
      rw [List.cons_append, plainTokenAt_foreign mark] at foreign
      cases foreign
    have visible : isSpace character = false := by
      simp only [List.mem_cons, not_or] at plain
      simp [isSpace, plain]
    have noMark : character ∉ ['[', ']', '{', '}', ':', ',', '"'] := fun mark =>
      plain (List.mem_append_left [' ', '\t', '\n', '\r'] mark)
    intro position rest ends
    refine through_token _ visible ?_ (awaits (.scalar content) position nofun)
    rw [tokenAt_eq_plainTokenAt noMark]
    exact read ends

theorem advances_scalar {content : Scalar} (tidy : content.IsTidy) (asciiOnly : Bool)
    {reading : Reading} {stack : List Frame} (awaits : reading.AwaitsValue stack) :
    Advances reading (writtenScalar asciiOnly content) ⟨.following (.scalar content), stack⟩ := by
  cases content with
  | string text =>
    exact (passes_writtenText asciiOnly fun position => awaits (.text text) position nofun).advances
  | null | bool _ | int _ | float _ | date _ | timestamp _ | binary _ =>
    exact advances_writtenScalar tidy asciiOnly nofun awaits

/-! ### Brackets -/

/-- Whether a separator is a mark with blanks behind it. -/
def IsSeparator (mark : Char) (separator : String) : Prop :=
  ∃ blanks, separator.toList = mark :: blanks ∧ ∀ character ∈ blanks, isSpace character = true

/-- A style whose separators are commas and colons with blanks behind them. -/
structure Style.IsReadable (style : Style) : Prop where
  item : IsSeparator ',' style.itemSeparator
  key : IsSeparator ':' style.keySeparator

theorem isReadable_configurationStyle : configurationStyle.IsReadable :=
  ⟨⟨[], rfl, nofun⟩, ⟨[' '], rfl, List.forall_mem_singleton.2 rfl⟩⟩

theorem isSpace_of_mem_lineStart {style : Style} {level : Nat} {character : Char}
    (member : character ∈ style.lineStart level) : isSpace character = true := by
  unfold Style.lineStart at member
  split at member
  · cases member
  · rcases List.mem_cons.1 member with rfl | blank
    · rfl
    · rw [List.eq_of_mem_replicate blank]
      rfl

theorem passes_lineStart (style : Style) (level : Nat) (reading : Reading) :
    Passes reading (style.lineStart level) reading :=
  passes_blanks (fun _ => isSpace_of_mem_lineStart) reading

theorem passes_separator {separator : String} {mark : Char} (separates : IsSeparator mark separator)
    {before after : Reading} (passes : Passes before [mark] after) :
    Passes before separator.toList after := by
  obtain ⟨blanks, toList, blank⟩ := separates
  rw [toList]
  exact passes.append (passes_blanks blank after)

/-- Parts with a comma before each of them lead from one state to another, up to the bracket that
closes them. -/
inductive Chain (closing : Char) (final : Reading) : Reading → List (List Char) → Prop
  | last {reading : Reading} (closes : Passes reading [closing] final) :
    Chain closing final reading []
  | more {reading between after : Reading} {part : List Char} {rest : List (List Char)}
    (comma : Passes reading [','] between) (inside : Advances between part after)
    (further : Chain closing final after rest) : Chain closing final reading (part :: rest)

section

variable {style : Style} (readable : style.IsReadable) (level : Nat) {closing : Char}

include readable

/-- What follows a part does not go on with a number. -/
theorem endsNumber_following (stops : continuesNumber closing = false)
    (parts : List (List Char)) (rest : List Char) :
    EndsNumber (parts.flatMap (fun part =>
      style.itemSeparator.toList ++ style.lineStart (level + 1) ++ part) ++
        (style.lineStart level ++ [closing]) ++ rest) := by
  cases parts with
  | nil =>
    unfold Style.lineStart
    split
    · exact endsNumber_cons stops _
    · exact endsNumber_cons rfl _
  | cons part others =>
    obtain ⟨blanks, toList, _⟩ := readable.item
    rw [List.flatMap_cons, toList]
    exact endsNumber_cons rfl _

theorem Chain.passes (stops : continuesNumber closing = false) {reading final : Reading}
    {parts : List (List Char)} (chain : Chain closing final reading parts) :
    Passes reading (parts.flatMap (fun part =>
      style.itemSeparator.toList ++ style.lineStart (level + 1) ++ part) ++
        (style.lineStart level ++ [closing])) final := by
  induction chain with
  | last closes => exact (passes_lineStart style level _).append closes
  | @more reading between after part rest comma inside further inductionHypothesis =>
    rw [List.flatMap_cons, List.append_assoc, List.append_assoc _ part]
    have separated := (passes_separator readable.item comma).append
      (passes_lineStart style (level + 1) between)
    exact separated.append (inside.append (endsNumber_following readable level stops rest)
      inductionHypothesis)

/-- A bracket opens, parts follow, and another bracket closes. -/
theorem passes_bracketed (stops : continuesNumber closing = false) {opening : Char}
    {before opened final : Reading} {parts : List (List Char)}
    (opens : Passes before [opening] opened)
    (inside : match parts with
      | [] => Passes opened [closing] final
      | first :: rest => ∃ after, Advances opened first after ∧ Chain closing final after rest) :
    Passes before (style.bracketed level opening closing parts) final := by
  cases parts with
  | nil => exact opens.append inside
  | cons first rest =>
    obtain ⟨after, firstPart, chain⟩ := inside
    have started := (passes_lineStart style (level + 1) opened).append_advances firstPart
    have whole := opens.append (started.append (endsNumber_following readable level stops rest)
      (chain.passes readable level stops))
    simpa [Style.bracketed, List.append_assoc] using whole

end

/-! ### Lists and maps -/

theorem writtenItems_eq_map (style : Style) (level : Nat) (items : List Value) :
    writtenItems style level items = items.map (written style level) := by
  induction items with
  | nil => rfl
  | cons item rest inductionHypothesis => rw [writtenItems, inductionHypothesis, List.map_cons]

/-- An entry of a map as it is written. -/
def writtenEntry (style : Style) (level : Nat) (entry : Scalar × Value) : List Char :=
  writtenKey style.asciiOnly entry.1 ++ style.keySeparator.toList ++ written style level entry.2

theorem writtenEntries_eq_map (style : Style) (level : Nat) (entries : Entries) :
    writtenEntries style level entries = entries.map (writtenEntry style level) := by
  induction entries with
  | nil => rfl
  | cons entry rest inductionHypothesis =>
    rw [writtenEntries, inductionHypothesis, List.map_cons, writtenEntry]

theorem exists_string_of_isJsonKey {key : Scalar} (text : key.isJsonKey = true) :
    ∃ name, key = .string name := by
  cases key with
  | string name => exact ⟨name, rfl⟩
  | null | bool _ | int _ | float _ | date _ | timestamp _ | binary _ => cases text

/-- Among different keys an entry is written behind those in front of it. -/
theorem write_of_areTidyKeys {done : Entries} {name : String} {item : Value} {rest : Entries}
    (keys : (done ++ (.string name, item) :: rest : Entries).AreTidyKeys) :
    Entries.write (.string name) item done = done ++ [(.string name, item)] := by
  obtain ⟨texts, distinct⟩ := keys
  rw [Entries.write_eq_put fun entry member => texts entry (List.mem_append_left _ member)]
  refine Ordered.put_of_notMem (fun member => ?_) item
  rw [List.map_append, List.map_cons] at distinct
  exact (List.nodup_append.1 distinct).2.2 _ member _ List.mem_cons_self rfl

/-- A value is read from its text wherever it may come and there is room for it. -/
def ReadsBack (style : Style) (level room : Nat) (value : Value) : Prop :=
  ∀ {reading : Reading} {stack : List Frame}, reading.AwaitsValue stack →
    stack.length + room ≤ deepest →
      Advances reading (written style level value) ⟨.following value, stack⟩

section

variable {style : Style} (readable : style.IsReadable) {level room : Nat} {stack : List Frame}
  (fits : stack.length + (room + 1) ≤ deepest)

include fits

/-- The items of a list behind the first one. -/
theorem chain_items (done : List Value) (item : Value) {rest : List Value}
    (each : ∀ other ∈ rest, ReadsBack style level room other) :
    Chain ']' ⟨.following (.list (done.reverse ++ item :: rest)), stack⟩
      ⟨.following item, .list done :: stack⟩ (rest.map (written style level)) := by
  induction rest generalizing done item with
  | nil =>
    refine .last (passes_mark rfl (fun _ _ => rfl) fun _ => ?_)
    rw [← List.reverse_cons]
    rfl
  | cons next rest inductionHypothesis =>
    obtain ⟨here, others⟩ := List.forall_mem_cons.1 each
    have further := inductionHypothesis (item :: done) next others
    rw [List.reverse_cons, List.append_assoc] at further
    have room : (Frame.list (item :: done) :: stack).length + room ≤ deepest := by
      rw [List.length_cons]
      omega
    exact .more (passes_mark rfl (fun _ _ => rfl) fun _ => rfl)
      (here (awaitsValue_value _) room) further

theorem readsBack_list {items : List Value}
    (each : ∀ item ∈ items, ReadsBack style (level + 1) room item) {reading : Reading}
    (awaits : reading.AwaitsValue stack) (readable : style.IsReadable) :
    Advances reading (written style level (.list items)) ⟨.following (.list items), stack⟩ := by
  have opens : Passes reading ['['] ⟨.itemOrEnd, stack⟩ := by
    refine passes_mark rfl (fun _ _ => rfl) fun position =>
      (awaits .openList position nofun).trans ?_
    exact if_neg (by omega)
  rw [written, writtenItems_eq_map]
  refine (passes_bracketed readable level rfl opens ?_).advances
  cases items with
  | nil => exact passes_mark rfl (fun _ _ => rfl) fun _ => rfl
  | cons first rest =>
    obtain ⟨here, others⟩ := List.forall_mem_cons.1 each
    have room : (Frame.list [] :: stack).length + room ≤ deepest := by
      rw [List.length_cons]
      omega
    exact ⟨_, here (awaitsValue_itemOrEnd stack) room, chain_items fits [] first others⟩

/-- An entry of a map, up to what follows its item. -/
theorem advances_writtenEntry (readable : style.IsReadable) {name : String} {item : Value}
    (right : ReadsBack style level room item) {reading : Reading} {done : Entries}
    (awaits : reading.AwaitsKey done stack) :
    Advances reading (writtenEntry style level (.string name, item))
      ⟨.following item, .map done name :: stack⟩ := by
  have key : Passes reading (writtenKey style.asciiOnly (.string name)) ⟨.colon done name, stack⟩ :=
    passes_writtenText style.asciiOnly fun position => awaits name position
  have colon : Passes ⟨.colon done name, stack⟩ [':'] ⟨.value, .map done name :: stack⟩ :=
    passes_mark rfl (fun _ _ => rfl) fun _ => rfl
  have room : (Frame.map done name :: stack).length + room ≤ deepest := by
    rw [List.length_cons]
    omega
  exact (key.append (passes_separator readable.key colon)).append_advances
    (right (awaitsValue_value _) room)

/-- The entries of a map behind the first one. -/
theorem chain_entries (readable : style.IsReadable) (done : Entries) {name : String} {item : Value}
    {rest : Entries} (each : ∀ entry ∈ rest, ReadsBack style level room entry.2)
    (keys : (done ++ (.string name, item) :: rest : Entries).AreTidyKeys) :
    Chain '}' ⟨.following (.map (done ++ (.string name, item) :: rest)), stack⟩
      ⟨.following item, .map done name :: stack⟩ (rest.map (writtenEntry style level)) := by
  induction rest generalizing done name item with
  | nil =>
    refine .last (passes_mark rfl (fun _ _ => rfl) fun _ => ?_)
    rw [← write_of_areTidyKeys keys]
    rfl
  | cons next rest inductionHypothesis =>
    obtain ⟨here, others⟩ := List.forall_mem_cons.1 each
    obtain ⟨key, following⟩ := next
    have text : key.isJsonKey = true :=
      keys.1 _ (List.mem_append_right _ (List.mem_cons_of_mem _ List.mem_cons_self))
    obtain ⟨name', rfl⟩ := exists_string_of_isJsonKey text
    have grown : done ++ (.string name, item) :: (.string name', following) :: rest =
        (done ++ [(.string name, item)]) ++ (.string name', following) :: rest := by
      rw [List.append_assoc]
      rfl
    have written := write_of_areTidyKeys keys
    rw [grown] at keys ⊢
    have further := inductionHypothesis _ others keys
    rw [← written] at further ⊢
    exact .more (passes_mark rfl (fun _ _ => rfl) fun _ => rfl)
      (advances_writtenEntry fits readable here (awaitsKey_key _ _)) further

theorem readsBack_map {entries : Entries} (keys : entries.AreTidyKeys)
    (each : ∀ entry ∈ entries, ReadsBack style (level + 1) room entry.2) {reading : Reading}
    (awaits : reading.AwaitsValue stack) (readable : style.IsReadable) :
    Advances reading (written style level (.map entries)) ⟨.following (.map entries), stack⟩ := by
  have opens : Passes reading ['{'] ⟨.keyOrEnd, stack⟩ := by
    refine passes_mark rfl (fun _ _ => rfl) fun position =>
      (awaits .openMap position nofun).trans ?_
    exact if_neg (by omega)
  rw [written, writtenEntries_eq_map]
  refine (passes_bracketed readable level rfl opens ?_).advances
  cases entries with
  | nil => exact passes_mark rfl (fun _ _ => rfl) fun _ => rfl
  | cons first rest =>
    obtain ⟨here, others⟩ := List.forall_mem_cons.1 each
    obtain ⟨key, item⟩ := first
    obtain ⟨name, rfl⟩ := exists_string_of_isJsonKey (keys.1 _ List.mem_cons_self)
    exact ⟨_, advances_writtenEntry fits readable here (awaitsKey_keyOrEnd stack),
      chain_entries fits readable [] others keys⟩

end

/-! ### Values -/

/-- A tidy value is read from its text wherever it may come and there is room for it. -/
theorem readsBack_of_isTidy {style : Style} (readable : style.IsReadable) {value : Value}
    (tidy : value.IsTidy) {room : Nat} (nests : value.Nests room) (level : Nat) :
    ReadsBack style level room value := by
  induction tidy generalizing room level with
  | scalar right => exact fun awaits _ => advances_scalar right style.asciiOnly awaits
  | list _ inductionHypothesis =>
    cases nests with
    | list nested =>
      exact fun awaits fits => readsBack_list fits
        (fun item member => inductionHypothesis item member (nested item member) _) awaits readable
  | map keys _ inductionHypothesis =>
    cases nests with
    | map nested =>
      exact fun awaits fits => readsBack_map fits keys
        (fun entry member => inductionHypothesis entry member (nested entry member) _) awaits
        readable

/-- A text that starts with a byte-order mark is refused as any other foreign character is. -/
theorem through_byteOrderMark (rest : List Char) :
    Reading.start.through 0 ('\uFEFF' :: rest) = .error (.malformed .expectingValue 0) := rfl

/-- A text whose tokens lead to a complete value is read as that value. -/
theorem readCharacters_of_through {characters : List Char} {value : Value}
    (complete : Reading.start.through 0 characters = .ok ⟨.following value, []⟩) :
    readCharacters characters = .ok value := by
  unfold readCharacters
  split
  · rw [through_byteOrderMark] at complete
    cases complete
  · show ((tokens characters).foldlM step Reading.start >>= fun reading =>
      reading.finish characters.length) = _
    rw [show (tokens characters).foldlM step Reading.start = _ from complete]
    rfl

/-- The text of a tidy value is read as that value, with blanks behind it or without. -/
theorem read_written {style : Style} (readable : style.IsReadable) {value : Value}
    (tidy : value.IsTidy) (nests : value.Nests deepest) {blanks : List Char}
    (blank : ∀ character ∈ blanks, isSpace character = true) :
    read (String.ofList (written style 0 value ++ blanks)) = .ok value := by
  have ends : EndsNumber blanks := by
    intro character same
    have space := blank character (List.mem_of_mem_head? same)
    simp only [isSpace, Bool.or_eq_true, beq_iff_eq] at space
    rcases space with ((rfl | rfl) | rfl) | rfl <;> rfl
  have advances := readsBack_of_isTidy readable tidy nests 0 (awaitsValue_value []) (by simp)
  have behind := passes_blanks blank ⟨.following value, []⟩ (0 + (written style 0 value).length) []
  rw [List.append_nil] at behind
  rw [read, String.toList_ofList]
  refine readCharacters_of_through ((advances 0 blanks ends).trans (behind.trans ?_))
  rfl

end Json

end ClientModel
