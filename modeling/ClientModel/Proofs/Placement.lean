/-
This file says what is left when items are placed in a list one after another, where an item takes
the place of the one with the same key and any other goes to the end. Calls are placed in their
namespace that way, by the names of their methods, and declarations among the others, by their
identifiers. The main statements are that the keys stand in the order of their first appearance,
each once, and that each key has the last item that was placed under it.
-/

import ClientModel.Ordered
import Mathlib.Data.List.Induction
import Mathlib.Data.List.Nodup

namespace ClientModel.Placement

variable {Item Key : Type} (key : Item → Key)

/-! ### The last item of a key -/

/-- The last of the items with its key. -/
def IsLast (items : List Item) (item : Item) : Prop :=
  ∃ before after, items = before ++ item :: after ∧ ∀ other ∈ after, key other ≠ key item

theorem IsLast.mem {items : List Item} {item : Item} (last : IsLast key items item) :
    item ∈ items := by
  obtain ⟨before, after, rfl, _⟩ := last
  simp

theorem isLast_append_singleton_iff (items : List Item) (item other : Item) :
    IsLast key (items ++ [item]) other ↔
      other = item ∨ IsLast key items other ∧ key other ≠ key item := by
  constructor
  · rintro ⟨before, after, split, latest⟩
    rcases List.eq_nil_or_concat after with rfl | ⟨rest, last, rfl⟩
    · obtain ⟨_, lastItem⟩ := List.append_inj' split rfl
      exact Or.inl (List.cons.inj lastItem).1.symm
    · rw [List.concat_eq_append] at split latest
      rw [← List.cons_append, ← List.append_assoc] at split
      obtain ⟨same, lastItem⟩ := List.append_inj' split rfl
      obtain rfl := (List.cons.inj lastItem).1
      refine Or.inr ⟨⟨before, rest, same, fun later member => latest later ?_⟩, ?_⟩
      · exact List.mem_append_left _ member
      · exact (latest item (by simp)).symm
  · rintro (rfl | ⟨⟨before, after, rfl, latest⟩, apart⟩)
    · exact ⟨items, [], rfl, by simp⟩
    · refine ⟨before, after ++ [item], by simp, fun later member => ?_⟩
      rcases List.mem_append.1 member with old | new
      · exact latest later old
      · rw [List.mem_singleton.1 new]
        exact apart.symm

/-- Where a key consists of two parts, its last item is the last with the one part among those with
the other. -/
theorem isLast_filter_iff {Whole Part : Type} [BEq Part] [LawfulBEq Part] {whole : Item → Whole}
    {part : Item → Part}
    (parts : ∀ item other, whole item = whole other ↔
      part item = part other ∧ key item = key other)
    (items : List Item) (item : Item) :
    IsLast key (items.filter (part · == part item)) item ↔ IsLast whole items item := by
  induction items using List.reverseRecOn with
  | nil => simp [IsLast]
  | append_singleton rest last inductionHypothesis =>
    rw [isLast_append_singleton_iff whole, ← inductionHypothesis, List.filter_append]
    by_cases together : part last = part item
    · have kept : [last].filter (part · == part item) = [last] := by simp [together]
      rw [kept, isLast_append_singleton_iff]
      simp [parts, together]
    · have apart : item ≠ last := fun same => together (same ▸ rfl)
      have dropped : [last].filter (part · == part item) = [] := by simp [together]
      rw [dropped, List.append_nil]
      simp [parts, apart, Ne.symm together]

theorem isLast_cons_iff (first : Item) (rest : List Item) (item : Item) :
    IsLast key (first :: rest) item ↔
      (item = first ∧ ∀ other ∈ rest, key other ≠ key item) ∨ IsLast key rest item := by
  constructor
  · rintro ⟨before, after, split, latest⟩
    cases before with
    | nil =>
      obtain ⟨rfl, rfl⟩ := List.cons.inj split
      exact Or.inl ⟨rfl, latest⟩
    | cons _ before => exact Or.inr ⟨before, after, (List.cons.inj split).2, latest⟩
  · rintro (⟨rfl, latest⟩ | ⟨before, after, rfl, latest⟩)
    · exact ⟨[], rest, rfl, latest⟩
    · exact ⟨first :: before, after, rfl, latest⟩

/-! ### Items that are made of others -/

theorem exists_mem_of_forall₂ {Source : Type} {Made : Source → Item → Prop}
    {sources : List Source} {items : List Item} (made : List.Forall₂ Made sources items)
    {source : Source} (member : source ∈ sources) : ∃ item ∈ items, Made source item := by
  induction made with
  | nil => cases member
  | @cons first item rest others here _ inductionHypothesis =>
    rcases List.mem_cons.1 member with rfl | further
    · exact ⟨item, List.mem_cons_self, here⟩
    · obtain ⟨other, among, madeOther⟩ := inductionHypothesis further
      exact ⟨other, List.mem_cons_of_mem _ among, madeOther⟩

theorem exists_append_of_forall₂ {Source : Type} {Made : Source → Item → Prop}
    {before after : List Source} {items : List Item}
    (made : List.Forall₂ Made (before ++ after) items) :
    ∃ first second, items = first ++ second ∧ List.Forall₂ Made before first ∧
      List.Forall₂ Made after second := by
  induction before generalizing items with
  | nil => exact ⟨[], items, rfl, .nil, made⟩
  | cons source rest inductionHypothesis =>
    obtain ⟨item, others, here, further, rfl⟩ := List.forall₂_cons_left_iff.1 made
    obtain ⟨first, second, rfl, madeFirst, madeSecond⟩ := inductionHypothesis further
    exact ⟨item :: first, second, rfl, .cons here madeFirst, madeSecond⟩

/-- What an item in a list is made into stands in the same place. -/
theorem exists_split_of_forall₂ {Source : Type} {Made : Source → Item → Prop}
    {before after : List Source} {source : Source} {items : List Item}
    (made : List.Forall₂ Made (before ++ source :: after) items) :
    ∃ first item second, items = first ++ item :: second ∧ List.Forall₂ Made before first ∧
      Made source item ∧ List.Forall₂ Made after second := by
  obtain ⟨first, _, rfl, madeFirst, further⟩ := exists_append_of_forall₂ made
  obtain ⟨item, second, here, madeSecond, rfl⟩ := List.forall₂_cons_left_iff.1 further
  exact ⟨first, item, second, rfl, madeFirst, here, madeSecond⟩

section

variable {Source : Type} {sourceKey : Source → Key} {Made : Source → Item → Prop}
  (sameKey : ∀ source item, Made source item → key item = sourceKey source)

include sameKey

/-- Items that are made of others one by one, each with the key of what it is made of, have the
same keys. -/
theorem map_key_of_forall₂ {sources : List Source} {items : List Item}
    (made : List.Forall₂ Made sources items) : items.map key = sources.map sourceKey := by
  induction made with
  | nil => rfl
  | cons here _ inductionHypothesis =>
    rw [List.map_cons, List.map_cons, sameKey _ _ here, inductionHypothesis]

/-- The last of a key is then made of the last of that key. -/
theorem isLast_iff_of_forall₂
    (functional : ∀ source item other, Made source item → Made source other → item = other)
    {sources : List Source} {items : List Item} (made : List.Forall₂ Made sources items)
    (item : Item) :
    IsLast key items item ↔ ∃ source, IsLast sourceKey sources source ∧ Made source item := by
  induction made with
  | nil => simp [IsLast]
  | @cons source first sources rest here others inductionHypothesis =>
    have keys := map_key_of_forall₂ key sameKey others
    have latest : (∀ other ∈ rest, key other ≠ key first) ↔
        ∀ other ∈ sources, sourceKey other ≠ sourceKey source := by
      have same : key first ∉ rest.map key ↔ key first ∉ sources.map sourceKey := by rw [keys]
      simpa [sameKey _ _ here] using same
    simp only [isLast_cons_iff, inductionHypothesis]
    constructor
    · rintro (⟨rfl, last⟩ | ⟨other, last, madeOther⟩)
      · exact ⟨source, Or.inl ⟨rfl, latest.1 last⟩, here⟩
      · exact ⟨other, Or.inr last, madeOther⟩
    · rintro ⟨other, ⟨rfl, last⟩ | last, madeOther⟩
      · rw [functional _ _ _ madeOther here]
        exact Or.inl ⟨rfl, latest.2 last⟩
      · exact Or.inr ⟨other, last, madeOther⟩

end

/-! ### Placing one item -/

variable [BEq Key]

/-- An item among others: in place of the one with the same key, else at the end. -/
def place (item : Item) : List Item → List Item
  | [] => [item]
  | other :: rest => if key other == key item then item :: rest else other :: place item rest

/-- What is left of items that are placed one after another. -/
def placeAll (items : List Item) : List Item :=
  items.foldl (fun placed item => place key item placed) []

theorem placeAll_append_singleton (items : List Item) (item : Item) :
    placeAll key (items ++ [item]) = place key item (placeAll key items) := by
  simp [placeAll]

variable [LawfulBEq Key]

/-- Placing items is writing entries under their keys. -/
theorem map_place (item : Item) (items : List Item) :
    (place key item items).map (fun other => (key other, other)) =
      Ordered.put (key item) item (items.map fun other => (key other, other)) := by
  induction items with
  | nil => rfl
  | cons other rest inductionHypothesis =>
    by_cases same : key other = key item
    · simp [place, Ordered.put, Ordered.putBy, same]
    · simpa [place, Ordered.put, Ordered.putBy, same] using inductionHypothesis

/-- The keys after an item is placed: those that were there, and a new one at the end. -/
theorem map_key_place (item : Item) (items : List Item) :
    (place key item items).map key =
      if key item ∈ items.map key then items.map key else items.map key ++ [key item] := by
  have written := congrArg (List.map Prod.fst) (map_place key item items)
  rw [Ordered.keys_put, List.map_map, List.map_map] at written
  exact written

/-- Where each key is there once, an item drives out the one with its key and no other. -/
theorem mem_place_iff {items : List Item} (distinct : (items.map key).Nodup)
    (item other : Item) :
    other ∈ place key item items ↔ other = item ∨ other ∈ items ∧ key other ≠ key item := by
  induction items with
  | nil => simp [place]
  | cons first rest inductionHypothesis =>
    simp only [List.map_cons, List.nodup_cons, List.mem_map, not_exists, not_and] at distinct
    have further := inductionHypothesis distinct.2
    by_cases same : key first = key item
    · have apart (kept : other ∈ rest) : key other ≠ key item :=
        fun equal => distinct.1 other kept (equal.trans same.symm)
      simp only [place, same, beq_self_eq_true, ↓reduceIte, List.mem_cons]
      grind
    · simp only [place, beq_iff_eq, same, ↓reduceIte, List.mem_cons, further]
      grind

/-- Where each key is there once, the item that has a key is found under it. -/
theorem find?_key_eq_some_iff {items : List Item} (distinct : (items.map key).Nodup)
    (sought : Key) (item : Item) :
    items.find? (key · == sought) = some item ↔ item ∈ items ∧ key item = sought := by
  constructor
  · intro found
    exact ⟨List.mem_of_find?_eq_some found, by simpa using List.find?_some found⟩
  · rintro ⟨member, rfl⟩
    cases found : items.find? (key · == key item) with
    | none => exact absurd (List.find?_eq_none.1 found item member) (by simp)
    | some other =>
      have same : key other = key item := by simpa using List.find?_some found
      rw [List.inj_on_of_nodup_map distinct (List.mem_of_find?_eq_some found) member same]

/-! ### Placing items one after another -/

/-- One more key: it counts if it is new. -/
theorem eraseDups_append_singleton (keys : List Key) (last : Key) :
    (keys ++ [last]).eraseDups =
      if last ∈ keys then keys.eraseDups else keys.eraseDups ++ [last] := by
  rw [List.eraseDups_append]
  by_cases old : last ∈ keys <;> simp [List.removeAll, old, List.eraseDups_cons]

theorem nodup_eraseDups (keys : List Key) : keys.eraseDups.Nodup := by
  induction keys using List.reverseRecOn with
  | nil => simp
  | append_singleton rest last inductionHypothesis =>
    rw [eraseDups_append_singleton]
    split
    · exact inductionHypothesis
    · next new =>
      rw [← List.concat_eq_append]
      exact inductionHypothesis.concat (by rwa [List.mem_eraseDups])

/-- A further key is one that was there, or one more. -/
theorem length_eraseDups_append_singleton (keys : List Key) (last : Key) :
    (keys ++ [last]).eraseDups.length + (if last ∈ keys then 1 else 0) =
      keys.eraseDups.length + 1 := by
  rw [eraseDups_append_singleton]
  split
  · rfl
  · exact List.length_append

/-- The keys of what is left, in the order of their first appearance. -/
theorem map_key_placeAll (items : List Item) :
    (placeAll key items).map key = (items.map key).eraseDups := by
  induction items using List.reverseRecOn with
  | nil => rfl
  | append_singleton rest last inductionHypothesis =>
    rw [placeAll_append_singleton, map_key_place, inductionHypothesis, List.map_append,
      List.map_singleton, eraseDups_append_singleton]
    simp only [List.mem_eraseDups]

/-- What is left has each key once. -/
theorem nodup_map_key_placeAll (items : List Item) : ((placeAll key items).map key).Nodup := by
  rw [map_key_placeAll]
  exact nodup_eraseDups _

/-- Each key has the last item that was placed under it. -/
theorem mem_placeAll_iff (items : List Item) (item : Item) :
    item ∈ placeAll key items ↔ IsLast key items item := by
  induction items using List.reverseRecOn with
  | nil => simp [placeAll, IsLast]
  | append_singleton rest last inductionHypothesis =>
    rw [placeAll_append_singleton, mem_place_iff key (nodup_map_key_placeAll key rest),
      isLast_append_singleton_iff, inductionHypothesis]

/-- What is found under a key is the last item that was placed under it. -/
theorem find?_placeAll_eq_some_iff (items : List Item) (sought : Key) (item : Item) :
    (placeAll key items).find? (key · == sought) = some item ↔
      IsLast key items item ∧ key item = sought := by
  rw [find?_key_eq_some_iff key (nodup_map_key_placeAll key items), mem_placeAll_iff]

/-- Every key has a last item. -/
theorem exists_isLast {items : List Item} {sought : Key} (member : sought ∈ items.map key) :
    ∃ item, IsLast key items item ∧ key item = sought := by
  rw [← List.mem_eraseDups, ← map_key_placeAll] at member
  obtain ⟨item, left, same⟩ := List.mem_map.1 member
  exact ⟨item, (mem_placeAll_iff key items item).1 left, same⟩

/-! ### Maps that are written entry by entry -/

variable {Other : Type}

/-- Writing entries is placing them by their keys. -/
theorem ofList_eq_placeAll (entries : List (Key × Item)) :
    Ordered.ofList entries = placeAll Prod.fst entries := by
  have written (entry : Key × Item) (before : List (Key × Item)) :
      Ordered.put entry.1 entry.2 before = place Prod.fst entry before := by
    induction before with
    | nil => rfl
    | cons other rest inductionHypothesis =>
      by_cases same : other.1 = entry.1
      · simp [Ordered.put, Ordered.putBy, place, same]
      · simpa [Ordered.put, Ordered.putBy, place, same] using inductionHypothesis
  simp only [Ordered.ofList, placeAll, written]

/-- A map has each key once. -/
theorem nodup_keys_ofList (entries : List (Key × Item)) :
    ((Ordered.ofList entries).map Prod.fst).Nodup := by
  rw [ofList_eq_placeAll]
  exact nodup_map_key_placeAll Prod.fst entries

/-- A map has no entries but those that were written. -/
theorem mem_of_mem_ofList {entries : List (Key × Item)} {entry : Key × Item}
    (member : entry ∈ Ordered.ofList entries) : entry ∈ entries := by
  rw [ofList_eq_placeAll, mem_placeAll_iff] at member
  exact member.mem

/-- A map is empty if nothing was written. -/
theorem isEmpty_ofList (entries : List (Key × Item)) :
    (Ordered.ofList entries).isEmpty = entries.isEmpty := by
  cases entries with
  | nil => rfl
  | cons entry rest =>
    obtain ⟨last, isLast, _⟩ := exists_isLast Prod.fst
      (List.mem_map_of_mem List.mem_cons_self : entry.1 ∈ (entry :: rest).map Prod.fst)
    rw [← mem_placeAll_iff, ← ofList_eq_placeAll] at isLast
    simpa using List.ne_nil_of_mem isLast

omit [LawfulBEq Key] in
/-- Items may be changed before or after they are written. -/
theorem map_ofList (change : Item → Other) (entries : List (Key × Item)) :
    (Ordered.ofList entries).map (fun entry => (entry.1, change entry.2)) =
      Ordered.ofList (entries.map fun entry => (entry.1, change entry.2)) := by
  induction entries using List.reverseRecOn with
  | nil => rfl
  | append_singleton rest entry inductionHypothesis =>
    simp only [Ordered.ofList, List.map_append, List.map_singleton, List.foldl_append,
      List.foldl_cons, List.foldl_nil, Ordered.map_put] at inductionHypothesis ⊢
    rw [inductionHypothesis]

end ClientModel.Placement
