/-
This file holds the maps of the library: lists of entries in the order in which their keys were
first written. Writing a key again replaces the value where the entry stands. The main
statements say what a key is looked up as after a write, and that a write keeps the order of the
keys that were there.
-/

namespace ClientModel.Ordered

variable {Key Item : Type}

/-- Writes an entry: in place of the first entry with the same key, else at the end. The key that
was written first stays. -/
def putBy (same : Key → Key → Bool) (key : Key) (item : Item) :
    List (Key × Item) → List (Key × Item)
  | [] => [(key, item)]
  | (key', item') :: rest =>
    if same key' key then (key', item) :: rest else (key', item') :: putBy same key item rest

/-- Writes an entry under a key that is compared by equality. -/
def put [BEq Key] (key : Key) (item : Item) (entries : List (Key × Item)) : List (Key × Item) :=
  putBy (· == ·) key item entries

/-- The map that a list of entries writes one after another. -/
def ofList [BEq Key] (entries : List (Key × Item)) : List (Key × Item) :=
  entries.foldl (fun written entry => put entry.1 entry.2 written) []

/-- The item under a key. -/
def get? [BEq Key] (key : Key) : List (Key × Item) → Option Item
  | [] => none
  | (key', item) :: rest => if key' == key then some item else get? key rest

/-! ### Entry by entry -/

section

variable [BEq Key] (key : Key) (item : Item)

theorem put_nil : put key item [] = [(key, item)] := rfl

theorem put_cons (key' : Key) (item' : Item) (rest : List (Key × Item)) :
    put key item ((key', item') :: rest) =
      if key' == key then (key', item) :: rest else (key', item') :: put key item rest := rfl

theorem get?_cons (key' : Key) (rest : List (Key × Item)) :
    get? key ((key', item) :: rest) = if key' == key then some item else get? key rest := rfl

end

/-! ### Laws -/

/-- What is found under a key stands among the entries. -/
theorem mem_of_get? [BEq Key] [LawfulBEq Key] {key : Key} {item : Item}
    {entries : List (Key × Item)} (found : get? key entries = some item) :
    (key, item) ∈ entries := by
  induction entries with
  | nil => cases found
  | cons entry rest inductionHypothesis =>
    obtain ⟨key', item'⟩ := entry
    by_cases same : key' = key
    · simp only [get?_cons, same, beq_self_eq_true, ↓reduceIte, Option.some.injEq] at found
      simp [same, found]
    · simp only [get?_cons, beq_iff_eq, same, ↓reduceIte] at found
      exact List.mem_cons_of_mem _ (inductionHypothesis found)

/-- Where each key is there once, it has the item that stands beside it. -/
theorem get?_of_mem [BEq Key] [LawfulBEq Key] {key : Key} {item : Item}
    {entries : List (Key × Item)} (distinct : (entries.map Prod.fst).Nodup)
    (member : (key, item) ∈ entries) : get? key entries = some item := by
  induction entries with
  | nil => cases member
  | cons entry rest inductionHypothesis =>
    obtain ⟨key', item'⟩ := entry
    rw [List.map_cons, List.nodup_cons] at distinct
    rcases List.mem_cons.1 member with same | further
    · obtain ⟨rfl, rfl⟩ := Prod.mk.inj same
      simp [get?_cons]
    · have apart : key' ≠ key := fun equal =>
        distinct.1 (equal ▸ List.mem_map_of_mem further : key' ∈ rest.map Prod.fst)
      rw [get?_cons, if_neg (by simpa using apart)]
      exact inductionHypothesis distinct.2 further

/-- After a write the key has the new item. -/
theorem get?_put_self [BEq Key] [LawfulBEq Key] (key : Key) (item : Item)
    (entries : List (Key × Item)) : get? key (put key item entries) = some item := by
  induction entries with
  | nil => simp [put_nil, get?_cons]
  | cons entry rest inductionHypothesis =>
    obtain ⟨key', item'⟩ := entry
    by_cases same : key' = key
    · simp [put_cons, get?_cons, same]
    · simpa [put_cons, get?_cons, same] using inductionHypothesis

/-- A write leaves every other key as it was. -/
theorem get?_put_of_ne [BEq Key] [LawfulBEq Key] {key other : Key} (different : other ≠ key)
    (item : Item) (entries : List (Key × Item)) :
    get? other (put key item entries) = get? other entries := by
  induction entries with
  | nil => simp [put_nil, get?_cons, different.symm]
  | cons entry rest inductionHypothesis =>
    obtain ⟨key', item'⟩ := entry
    by_cases same : key' = key
    · subst same
      simp [put_cons, get?_cons, different.symm]
    · by_cases here : key' = other
      · simp [put_cons, get?_cons, here, different]
      · simpa [put_cons, get?_cons, same, here] using inductionHypothesis

/-- The keys after a write: those that were there, in their order, and the written key at the end
if it is new. -/
theorem keys_put [BEq Key] [LawfulBEq Key] (key : Key) (item : Item)
    (entries : List (Key × Item)) :
    (put key item entries).map Prod.fst =
      if key ∈ entries.map Prod.fst then entries.map Prod.fst
      else entries.map Prod.fst ++ [key] := by
  induction entries with
  | nil => simp [put_nil]
  | cons entry rest inductionHypothesis =>
    obtain ⟨key', item'⟩ := entry
    by_cases same : key' = key
    · simp [put_cons, same]
    · have unlike : ¬key = key' := fun equal => same equal.symm
      simp only [put_cons, beq_iff_eq, same, ↓reduceIte, List.map_cons, inductionHypothesis,
        List.mem_cons, unlike, false_or]
      split <;> simp

/-- Items may be changed before or after they are written. -/
theorem map_put [BEq Key] {Other : Type} (change : Item → Other) (key : Key) (item : Item)
    (entries : List (Key × Item)) :
    (put key item entries).map (fun entry => (entry.1, change entry.2)) =
      put key (change item) (entries.map fun entry => (entry.1, change entry.2)) := by
  induction entries with
  | nil => rfl
  | cons entry rest inductionHypothesis =>
    obtain ⟨key', item'⟩ := entry
    by_cases same : key' == key
    · simp [put_cons, same]
    · simpa [put_cons, same] using inductionHypothesis

end ClientModel.Ordered
