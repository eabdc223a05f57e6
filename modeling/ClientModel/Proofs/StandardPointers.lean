/-
This file compares following a pointer with the standard for pointers (RFC 6901), whose text stands
behind the `#`, without the escapes of URLs. By the standard a tilde is always an escape, and a list
is entered by digits that no zero leads. Following a pointer takes any tilde, and any numeral that a
person may write, also one that counts from the end. The main statement is that a pointer that leads
somewhere leads to the value of the standard or to none by the standard, with the exact condition:
each tilde in it is an escape, and each list on its way is entered by an index.
-/

import ClientModel.Proofs.Outcome
import ClientModel.Proofs.PointerPaths

namespace ClientModel.Pointer

open Text (notMem_of_mem_splitOn)

/-! ### The standard -/

/-- The key that a segment writes: a tilde in front of a zero is a tilde, one in front of a one is a
slash, and there is no other. -/
def decode? : List Char → Option (List Char)
  | [] => some []
  | '~' :: '0' :: rest => (decode? rest).map ('~' :: ·)
  | '~' :: '1' :: rest => (decode? rest).map ('/' :: ·)
  | '~' :: _ => none
  | character :: rest => (decode? rest).map (character :: ·)

/-- A position as the standard writes it: a zero, or digits that no zero leads. -/
def isIndex : List Char → Bool
  | [] => false
  | ['0'] => true
  | first :: rest => first != '0' && (first :: rest).all Text.isAsciiDigit

/-- One segment of a pointer by the standard: a member of a map, or an item of a list. -/
def step? (current : Value) (segment : List Char) : Option Value :=
  (decode? segment).bind fun key =>
    match current.opened with
    | .map entries => Entries.get? (String.ofList key) entries
    | .list items => if isIndex key then items[Text.naturalOf key]? else none
    | _ => none

/-- The value of a pointer by the standard. -/
def evaluate? (pointer : String) (root : Value) : Option Value :=
  match pointer.toList with
  | ['#'] => some root
  | '#' :: '/' :: rest => (Text.splitOn '/' rest).foldlM step? root
  | _ => none

/-! ### Tildes -/

/-- Each tilde stands in front of a zero or a one. -/
def TildesEscape (characters : List Char) : Prop :=
  ∀ front back, characters = front ++ '~' :: back →
    back.head? = some '0' ∨ back.head? = some '1'

theorem tildesEscape_nil : TildesEscape [] :=
  fun _ _ same => absurd same.symm (List.append_ne_nil_of_right_ne_nil _ (List.cons_ne_nil _ _))

theorem tildesEscape_cons_iff (character : Char) (rest : List Char) :
    TildesEscape (character :: rest) ↔
      (character = '~' → rest.head? = some '0' ∨ rest.head? = some '1') ∧ TildesEscape rest := by
  constructor
  · intro each
    refine ⟨?_, fun front back same => each (character :: front) back (congrArg _ same)⟩
    rintro rfl
    exact each [] rest rfl
  · rintro ⟨here, further⟩ front back same
    cases front with
    | nil =>
      obtain ⟨rfl, rfl⟩ := List.cons.inj same
      exact here rfl
    | cons first front => exact further front back (List.cons.inj same).2

/-- A segment writes a key exactly if its tildes are escapes. -/
theorem isSome_decode?_iff (segment : List Char) :
    (decode? segment).isSome = true ↔ TildesEscape segment := by
  fun_induction decode? segment with
  | case1 => exact iff_of_true rfl tildesEscape_nil
  | case2 rest inductionHypothesis | case3 rest inductionHypothesis =>
    rw [Option.isSome_map, inductionHypothesis, tildesEscape_cons_iff, tildesEscape_cons_iff]
    simp
  | case4 rest notZero notOne =>
    rw [tildesEscape_cons_iff]
    refine iff_of_false Bool.false_ne_true fun ⟨escape, _⟩ => ?_
    rcases escape rfl with zero | one
    · obtain ⟨others, rfl⟩ := List.head?_eq_some_iff.1 zero
      exact notZero others rfl
    · obtain ⟨others, rfl⟩ := List.head?_eq_some_iff.1 one
      exact notOne others rfl
  | case5 character rest _ _ plain inductionHypothesis =>
    rw [Option.isSome_map, inductionHypothesis, tildesEscape_cons_iff]
    exact ⟨fun further => ⟨fun tilde => absurd tilde plain, further⟩, And.right⟩

/-- A segment that writes a key by the standard is the one that is written for this key. -/
theorem eq_escape_of_decode? {segment key : List Char} (decoded : decode? segment = some key)
    (whole : '/' ∉ segment) : segment = escape key := by
  fun_induction decode? segment generalizing key with
  | case1 => rw [← Option.some.inj decoded]; rfl
  | case2 rest inductionHypothesis | case3 rest inductionHypothesis =>
    obtain ⟨further, read, rfl⟩ := Option.map_eq_some_iff.1 decoded
    simp only [List.mem_cons, not_or] at whole
    rw [inductionHypothesis read whole.2.2]
    rfl
  | case4 => cases decoded
  | case5 character rest _ _ plain inductionHypothesis =>
    obtain ⟨further, read, rfl⟩ := Option.map_eq_some_iff.1 decoded
    rw [List.mem_cons, not_or] at whole
    rw [inductionHypothesis read whole.2, escape_cons_of_ne plain (Ne.symm whole.1)]

/-- What is read of a segment is the key that it writes by the standard, if it writes one. -/
theorem unescape_of_decode? {segment key : List Char} (decoded : decode? segment = some key)
    (whole : '/' ∉ segment) : unescape segment = key := by
  rw [eq_escape_of_decode? decoded whole, unescape_escape]

/-! ### Segments -/

/-- The first part of a text starts as the text does, if this is not with a separator. -/
theorem head?_splitOn {separator character : Char} (other : character ≠ separator)
    {characters first : List Char} {parts : List (List Char)}
    (split : Text.splitOn separator characters = first :: parts) :
    first.head? = some character ↔ characters.head? = some character := by
  cases characters with
  | nil => cases split; exact Iff.rfl
  | cons head rest =>
    by_cases same : head = separator
    · rw [same, Text.splitOn_cons_self] at split
      rw [← (List.cons.inj split).1, same]
      simp [other.symm]
    · obtain ⟨_, _, _, whole⟩ := Text.splitOn_cons_of_ne separator same rest
      rw [← (List.cons.inj (whole.symm.trans split)).1]
      rfl

/-- The tildes of a text are escapes if those of its parts are. -/
theorem tildesEscape_iff_splitOn (characters : List Char) :
    TildesEscape characters ↔
      ∀ segment ∈ Text.splitOn '/' characters, TildesEscape segment := by
  induction characters with
  | nil => simp [Text.splitOn_nil]
  | cons character rest inductionHypothesis =>
    rw [tildesEscape_cons_iff, inductionHypothesis]
    by_cases slash : character = '/'
    · subst slash
      simp [Text.splitOn_cons_self, tildesEscape_nil]
    · obtain ⟨first, parts, split, whole⟩ := Text.splitOn_cons_of_ne '/' slash rest
      rw [split, whole]
      simp only [List.forall_mem_cons, tildesEscape_cons_iff, and_assoc,
        head?_splitOn (show '0' ≠ '/' by decide) split,
        head?_splitOn (show '1' ≠ '/' by decide) split]

/-! ### Steps -/

theorem filled_of_isIndex {segment : List Char} (index : isIndex segment = true) :
    segment ≠ [] := by
  rintro rfl
  cases index

theorem digits_of_isIndex {segment : List Char} (index : isIndex segment = true) :
    ∀ digit ∈ segment, Text.isAsciiDigit digit = true := by
  unfold isIndex at index
  split at index
  · cases index
  · exact List.forall_mem_singleton.2 rfl
  · exact List.all_eq_true.1 (Bool.and_eq_true_iff.1 index).2

/-- The key of a segment. -/
def keyOf (segment : List Char) : String := String.ofList (unescape segment)

/-- A segment is taken by the standard: it writes a key, which is an index where the segment leads
into a list. -/
def IsProper (current : Value) (segment : List Char) : Prop :=
  TildesEscape segment ∧ (current.items?.isSome = true → isIndex (unescape segment) = true)

section

variable {pointer : String} {current next : Value} {segment : List Char}
  (entered : enter pointer current (keyOf segment) = .ok next) (whole : '/' ∉ segment)

include entered

/-- An index that leads into a list leads to the item at its number. -/
theorem getElem?_of_isIndex {items : List Value} (list : current.items? = some items)
    (index : isIndex (unescape segment) = true) :
    items[Text.naturalOf (unescape segment)]? = some next := by
  rw [enter_of_items? list, keyOf, String.toList_ofList,
    Text.readInteger?_of_digits (filled_of_isIndex index)
      (digits_of_isIndex index)] at entered
  split at entered
  · rw [Option.bind_some, itemAt?_natCast] at entered
    cases found : items[Text.naturalOf (unescape segment)]? with
    | none => rw [found] at entered; cases entered
    | some item => rw [found] at entered; exact congrArg some (Except.ok.inj entered)
  · cases entered

include whole

/-- By the standard a segment that leads somewhere leads there if it is taken by the standard, and
nowhere otherwise. -/
theorem step?_of_enter :
    (IsProper current segment → step? current segment = some next) ∧
      (¬ IsProper current segment → step? current segment = none) := by
  rw [IsProper, ← isSome_decode?_iff, step?]
  cases decoded : decode? segment with
  | none => exact ⟨fun proper => absurd proper.1 Bool.false_ne_true, fun _ => rfl⟩
  | some key =>
    obtain rfl := unescape_of_decode? decoded whole
    rw [Option.bind_some]
    -- A map takes any key, a list only an index; nothing else is entered at all.
    cases opened : current.opened with
    | map entries =>
      have noList : current.items? = none := by rw [Value.items?, opened]
      rw [enter, opened] at entered
      dsimp only at entered ⊢
      refine ⟨fun _ => ?_, fun improper => ?_⟩
      · split at entered
        · next found => rw [← Except.ok.inj entered]; exact found
        · cases entered
      · exact absurd ⟨rfl, fun list => by rw [noList] at list; cases list⟩ improper
    | list items =>
      have list : current.items? = some items := by rw [Value.items?, opened]
      dsimp only
      by_cases index : isIndex (unescape segment) = true
      · rw [if_pos index]
        exact ⟨fun _ => getElem?_of_isIndex entered list index,
          fun improper => absurd ⟨rfl, fun _ => index⟩ improper⟩
      · rw [if_neg index]
        exact ⟨fun proper => absurd (proper.2 (by rw [list]; rfl)) index, fun _ => rfl⟩
    | scalar _ | set _ | pair _ _ | knot _ _ | again _ _ =>
      rw [enter, opened] at entered
      cases entered

end

/-- A list is entered by the numerals of its places, counted from the front or from the end. -/
theorem isSome_itemAt?_iff (items : List Value) (position : Int) :
    (itemAt? items position).isSome = true ↔
      -(items.length : Int) ≤ position ∧ position < items.length := by
  unfold itemAt?
  by_cases fromEnd : position < 0
  · simp only [fromEnd, if_true]
    split
    · simp only [Option.isSome_none, Bool.false_eq_true, false_iff]
      omega
    · simp only [Option.isSome_iff_ne_none, ne_eq, List.getElem?_eq_none_iff, not_le]
      omega
  · simp only [fromEnd, if_false, Option.isSome_iff_ne_none, ne_eq, List.getElem?_eq_none_iff,
      not_le]
    omega

/-- A segment is no place of a list if it is no numeral, or that of a place the list does not
have. -/
theorem enter_eq_invalidIndex_iff {current : Value} {items : List Value}
    (list : current.items? = some items) (pointer segment : String) :
    enter pointer current segment = .error (.invalidIndex pointer segment) ↔
      ∀ position, Text.readInteger? segment.toList = some position →
        ¬ (-(items.length : Int) ≤ position ∧ position < items.length) := by
  rw [enter_of_items? list]
  cases read : Text.readInteger? segment.toList with
  | none => exact iff_of_true rfl nofun
  | some position =>
    simp only [Option.bind_some, Option.some.injEq, forall_eq', ← isSome_itemAt?_iff]
    cases itemAt? items position <;> simp

/-! ### Ways -/

/-- The segments are taken by the standard, each in the value to which those in front of it
lead. -/
def AreProper (pointer : String) (root : Value) (segments : List (List Char)) : Prop :=
  ∀ front segment back current, segments = front ++ segment :: back →
    (front.map keyOf).foldlM (enter pointer) root = .ok current → IsProper current segment

theorem areProper_nil (pointer : String) (root : Value) : AreProper pointer root [] :=
  fun _ _ _ _ same => absurd same.symm (List.append_ne_nil_of_right_ne_nil _ (List.cons_ne_nil _ _))

theorem areProper_cons_iff {pointer : String} {root next : Value} {segment : List Char}
    (entered : enter pointer root (keyOf segment) = .ok next) (rest : List (List Char)) :
    AreProper pointer root (segment :: rest) ↔
      IsProper root segment ∧ AreProper pointer next rest := by
  have through (front : List (List Char)) :
      ((segment :: front).map keyOf).foldlM (enter pointer) root =
        (front.map keyOf).foldlM (enter pointer) next := by
    rw [List.map_cons, List.foldlM_cons, entered]
    rfl
  constructor
  · intro each
    refine ⟨each [] segment rest root rfl rfl, fun front other back current same reached => ?_⟩
    exact each (segment :: front) other back current (congrArg _ same)
      ((through front).trans reached)
  · rintro ⟨here, further⟩ front other back current same reached
    cases front with
    | nil =>
      obtain ⟨rfl, -⟩ := List.cons.inj same
      rwa [← Except.ok.inj reached]
    | cons first front =>
      obtain ⟨rfl, sameRest⟩ := List.cons.inj same
      exact further front other back current sameRest ((through front).symm.trans reached)

/-- The standard goes the way of segments that lead somewhere as long as it takes them. -/
theorem foldlM_step?_of_enter {pointer : String} {root value : Value}
    {segments : List (List Char)} (whole : ∀ segment ∈ segments, '/' ∉ segment)
    (resolved : (segments.map keyOf).foldlM (enter pointer) root = .ok value) :
    (AreProper pointer root segments → segments.foldlM step? root = some value) ∧
      (¬ AreProper pointer root segments → segments.foldlM step? root = none) := by
  induction segments generalizing root with
  | nil =>
    exact ⟨fun _ => congrArg some (Except.ok.inj resolved),
      fun improper => absurd (areProper_nil pointer root) improper⟩
  | cons segment rest inductionHypothesis =>
    rw [List.map_cons, List.foldlM_cons, bind_eq_ok_iff] at resolved
    obtain ⟨next, entered, further⟩ := resolved
    obtain ⟨taken, refused⟩ := step?_of_enter entered (whole segment List.mem_cons_self)
    obtain ⟨arrives, fails⟩ :=
      inductionHypothesis (fun other member => whole other (List.mem_cons_of_mem _ member)) further
    rw [areProper_cons_iff entered, List.foldlM_cons]
    refine ⟨fun ⟨here, others⟩ => ?_, fun improper => ?_⟩
    · rw [taken here]
      exact arrives others
    · by_cases here : IsProper root segment
      · rw [taken here]
        exact fails fun others => improper ⟨here, others⟩
      · rw [refused here]
        rfl

/-! ### Pointers -/

/-- On the way of a pointer a segment is applied to a list. -/
def EntersBy (pointer : String) (root : Value) (segment : String) (items : List Value) : Prop :=
  ∃ front back current, segments? pointer = some (front ++ segment :: back) ∧
    front.foldlM (enter pointer) root = .ok current ∧ current.items? = some items

/-- A pointer is as the standard has it: its tildes are escapes, and each list on its way is entered
by an index. -/
structure FollowsStandard (pointer : String) (root : Value) : Prop where
  escapes : TildesEscape pointer.toList
  indices : ∀ segment items, EntersBy pointer root segment items → isIndex segment.toList = true

/-- The text of a pointer that leads somewhere, and its segments. -/
theorem exists_rest_of_resolve {pointer : String} {root value : Value}
    (resolved : resolve pointer root = .ok value) :
    ∃ rest, pointer.toList = '#' :: '/' :: rest ∧
      segments? pointer = some ((Text.splitOn '/' rest).map keyOf) ∧
        ((Text.splitOn '/' rest).map keyOf).foldlM (enter pointer) root = .ok value := by
  unfold resolve at resolved
  cases segments : segments? pointer with
  | none => rw [segments] at resolved; cases resolved
  | some keys =>
    rw [segments] at resolved
    have read := segments
    unfold segments? at read
    split at read
    · next rest text => exact ⟨rest, text, read.symm, Option.some.inj read ▸ resolved⟩
    · cases read

theorem evaluate?_eq {pointer : String} {rest : List Char}
    (text : pointer.toList = '#' :: '/' :: rest) (root : Value) :
    evaluate? pointer root = (Text.splitOn '/' rest).foldlM step? root := by
  rw [evaluate?, text]
  rfl

theorem tildesEscape_pointer_iff {pointer : String} {rest : List Char}
    (text : pointer.toList = '#' :: '/' :: rest) :
    TildesEscape pointer.toList ↔ ∀ segment ∈ Text.splitOn '/' rest, TildesEscape segment := by
  rw [text, tildesEscape_cons_iff, tildesEscape_cons_iff, ← tildesEscape_iff_splitOn]
  simp

/-- The segments of a pointer that leads somewhere are taken by the standard exactly if the pointer
is as the standard has it. -/
theorem followsStandard_iff {pointer : String} {root value : Value} {rest : List Char}
    (text : pointer.toList = '#' :: '/' :: rest)
    (segments : segments? pointer = some ((Text.splitOn '/' rest).map keyOf))
    (resolved : ((Text.splitOn '/' rest).map keyOf).foldlM (enter pointer) root = .ok value) :
    FollowsStandard pointer root ↔ AreProper pointer root (Text.splitOn '/' rest) := by
  have key (segment : List Char) : (keyOf segment).toList = unescape segment :=
    String.toList_ofList
  constructor
  · rintro ⟨escapes, indices⟩ front segment back current same reached
    have member : segment ∈ Text.splitOn '/' rest := by
      rw [same]
      exact List.mem_append_right _ List.mem_cons_self
    refine ⟨(tildesEscape_pointer_iff text).1 escapes segment member, fun list => ?_⟩
    obtain ⟨items, list⟩ := Option.isSome_iff_exists.1 list
    rw [same, List.map_append, List.map_cons] at segments
    exact key segment ▸ indices (keyOf segment) items ⟨_, _, current, segments, reached, list⟩
  · intro proper
    refine ⟨(tildesEscape_pointer_iff text).2 fun segment member => ?_, ?_⟩
    · obtain ⟨front, back, same⟩ := List.append_of_mem member
      rw [same, List.map_append, List.foldlM_append, bind_eq_ok_iff] at resolved
      obtain ⟨current, reached, _⟩ := resolved
      exact (proper front segment back current same reached).1
    · rintro segment items ⟨front, back, current, cut, reached, list⟩
      obtain ⟨rawFront, rawRest, same, rfl, cutRest⟩ :=
        List.map_eq_append_iff.1 (Option.some.inj (segments.symm.trans cut))
      obtain ⟨raw, rawBack, rfl, rfl, -⟩ := List.map_eq_cons_iff.1 cutRest
      rw [key]
      exact (proper rawFront raw rawBack current same reached).2 (by rw [list]; rfl)

/-- A pointer that leads somewhere leads to the same value by the standard if it is as the standard
has it, and nowhere by the standard if it is not. A list is entered by any segment that is read as
an integer and is the place of an item, counted from the front or, below zero, from the end, and by
no other. -/
theorem standard_of_resolve {pointer : String} {root value : Value}
    (resolved : resolve pointer root = .ok value) :
    (evaluate? pointer root = some value ↔ FollowsStandard pointer root) ∧
    (evaluate? pointer root = none ↔ ¬ FollowsStandard pointer root) ∧
    ∀ current items segment, current.items? = some items →
      (enter pointer current segment = .error (.invalidIndex pointer segment) ↔
        ∀ position, Text.readInteger? segment.toList = some position →
          ¬ (-(items.length : Int) ≤ position ∧ position < items.length)) := by
  obtain ⟨rest, text, segments, found⟩ := exists_rest_of_resolve resolved
  obtain ⟨arrives, fails⟩ := foldlM_step?_of_enter (fun _ => notMem_of_mem_splitOn) found
  rw [← followsStandard_iff text segments found, ← evaluate?_eq text] at arrives fails
  refine ⟨⟨fun evaluated => ?_, arrives⟩, ⟨fun missed follows => ?_, fails⟩,
    fun current items segment list => enter_eq_invalidIndex_iff list pointer segment⟩
  · by_contra other
    rw [fails other] at evaluated
    cases evaluated
  · rw [arrives follows] at missed
    cases missed

/-- A document with a list of two numbers, and a key with a tilde. -/
def countedDocument : Value :=
  .map [(.string "items", .list [.int 10, .int 20]), (.string "a~b", .int 30)]

/-- A pointer to the second item of a list. -/
theorem standard_of_resolve_countedDocument :
    resolve "#/items/1" countedDocument = .ok (.int 20) ∧
      evaluate? "#/items/1" countedDocument = some (.int 20) ∧
      FollowsStandard "#/items/1" countedDocument := by
  have resolved : resolve "#/items/1" countedDocument = .ok (.int 20) := rfl
  have evaluated : evaluate? "#/items/1" countedDocument = some (.int 20) := rfl
  exact ⟨resolved, evaluated, (standard_of_resolve resolved).1.1 evaluated⟩

/-- Pointers that lead to the second item of a list, and to a key with a tilde, and nowhere by the
standard: a place counted from the end, a sign, a leading zero, a blank, an underscore, a digit of
another script, and a tilde that is no escape. -/
theorem resolve_beyond_standard :
    (resolve "#/items/-1" countedDocument = .ok (.int 20) ∧
      evaluate? "#/items/-1" countedDocument = none) ∧
    (resolve "#/items/+1" countedDocument = .ok (.int 20) ∧
      evaluate? "#/items/+1" countedDocument = none) ∧
    (resolve "#/items/01" countedDocument = .ok (.int 20) ∧
      evaluate? "#/items/01" countedDocument = none) ∧
    (resolve "#/items/ 1" countedDocument = .ok (.int 20) ∧
      evaluate? "#/items/ 1" countedDocument = none) ∧
    (resolve "#/items/0_1" countedDocument = .ok (.int 20) ∧
      evaluate? "#/items/0_1" countedDocument = none) ∧
    (resolve "#/items/١" countedDocument = .ok (.int 20) ∧
      evaluate? "#/items/١" countedDocument = none) ∧
    (resolve "#/a~b" countedDocument = .ok (.int 30) ∧
      evaluate? "#/a~b" countedDocument = none) := by
  refine ⟨⟨rfl, rfl⟩, ⟨rfl, rfl⟩, ⟨rfl, rfl⟩, ⟨rfl, rfl⟩, ⟨rfl, rfl⟩, ⟨rfl, rfl⟩, ⟨rfl, rfl⟩⟩

end ClientModel.Pointer
