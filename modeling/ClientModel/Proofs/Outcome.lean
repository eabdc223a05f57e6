/-
This file says how steps that may fail end: with a product that is good, or with a fault that is
allowed. Steps one after another, and a step for every item of a list, end the way their parts do.
The last statements say where the steps for a list fail: at the first item whose step fails.
-/

import ClientModel.Proofs.Extraction

namespace ClientModel

variable {Fault Item Product Further : Type}

/-! ### Good products and allowed faults -/

/-- The outcome is a good product or an allowed fault. -/
def Ends (good : Product → Prop) (allowed : Fault → Prop) : Except Fault Product → Prop
  | .ok product => good product
  | .error fault => allowed fault

namespace Ends

variable {good good' : Product → Prop} {allowed allowed' : Fault → Prop}
  {outcome : Except Fault Product}

theorem of_ok (ends : Ends good allowed outcome) {product : Product}
    (success : outcome = .ok product) : good product := by
  subst success
  exact ends

theorem of_error (ends : Ends good allowed outcome) {fault : Fault}
    (failure : outcome = .error fault) : allowed fault := by
  subst failure
  exact ends

/-- Where no fault is allowed there is a product. -/
theorem exists_ok (ends : Ends good (fun _ => False) outcome) :
    ∃ product, outcome = .ok product ∧ good product := by
  cases outcome with
  | ok product => exact ⟨product, rfl, ends⟩
  | error fault => exact absurd ends id

theorem mono (ends : Ends good allowed outcome) (better : ∀ product, good product → good' product)
    (wider : ∀ fault, allowed fault → allowed' fault) : Ends good' allowed' outcome := by
  cases outcome with
  | ok product => exact better product ends
  | error fault => exact wider fault ends

/-- A change to the product is made before it is looked at. -/
theorem map_iff (change : Product → Further) (goodFurther : Further → Prop) :
    Ends goodFurther allowed (outcome.map change) ↔
      Ends (fun product => goodFurther (change product)) allowed outcome := by
  cases outcome <;> rfl

theorem bind {next : Product → Except Fault Further} {goodFurther : Further → Prop}
    (first : Ends good allowed outcome)
    (second : ∀ product, good product → Ends goodFurther allowed (next product)) :
    Ends goodFurther allowed (outcome >>= next) := by
  cases outcome with
  | ok product => exact second product first
  | error fault => exact first

/-- Steps from one good state to the next end in a good state. -/
theorem foldlM {step : Product → Item → Except Fault Product} {items : List Item}
    (each : ∀ state, good state → ∀ item ∈ items, Ends good allowed (step state item))
    {start : Product} (right : good start) : Ends good allowed (items.foldlM step start) := by
  induction items generalizing start with
  | nil => exact right
  | cons item rest inductionHypothesis =>
    rw [List.foldlM_cons]
    refine (each start right item List.mem_cons_self).bind fun next further => ?_
    exact inductionHypothesis (fun state good other member =>
      each state good other (List.mem_cons_of_mem _ member)) further

/-- A step for every item of a list gives good products alone, or fails as one of the steps. -/
theorem mapM {items : List Item} {step : Item → Except Fault Product}
    (each : ∀ item ∈ items, Ends good allowed (step item)) :
    Ends (fun products => ∀ product ∈ products, good product) allowed (items.mapM step) := by
  induction items with
  | nil => exact fun _ member => absurd member List.not_mem_nil
  | cons item rest inductionHypothesis =>
    rw [List.mapM_cons]
    refine (each item List.mem_cons_self).bind fun product right => ?_
    have others := inductionHypothesis fun other member =>
      each other (List.mem_cons_of_mem _ member)
    exact others.bind fun products allRight => List.forall_mem_cons.2 ⟨right, allRight⟩

end Ends

/-- The products of steps that all succeed. -/
theorem mem_iff_of_mapM {step : Item → Except Fault Product} {items : List Item}
    {products : List Product} (made : items.mapM step = .ok products) (product : Product) :
    product ∈ products ↔ ∃ item ∈ items, step item = .ok product := by
  have each := (mapM_eq_ok_iff _ _ _).1 made
  constructor
  · exact Placement.exists_mem_of_forall₂ each.flip
  · rintro ⟨item, member, here⟩
    obtain ⟨other, among, same⟩ := Placement.exists_mem_of_forall₂ each member
    exact Except.ok.inj (here.symm.trans same) ▸ among

theorem toOption_eq_some_iff (outcome : Except Fault Product) (product : Product) :
    outcome.toOption = some product ↔ outcome = .ok product := by
  cases outcome <;> simp [Except.toOption]

/-! ### Where steps fail -/

/-- Two steps fail as the first does, or as the second does on its product. -/
theorem bind_eq_error_iff (first : Except Fault Product) (second : Product → Except Fault Further)
    (fault : Fault) :
    first >>= second = .error fault ↔
      first = .error fault ∨ ∃ product, first = .ok product ∧ second product = .error fault := by
  cases first <;> simp [bind, Except.bind]

/-- The steps for a list arrive at an item: they succeed for all items in front of it. -/
def Arrives (step : Item → Except Fault Product) (items : List Item) (item : Item) : Prop :=
  ∃ front back, items = front ++ item :: back ∧
    ∀ earlier ∈ front, ∃ product, step earlier = .ok product

theorem Arrives.mem {step : Item → Except Fault Product} {items : List Item} {item : Item}
    (arrives : Arrives step items item) : item ∈ items := by
  obtain ⟨front, back, rfl, _⟩ := arrives
  exact List.mem_append_right _ List.mem_cons_self

theorem arrives_cons_iff (step : Item → Except Fault Product) (first : Item) (rest : List Item)
    (item : Item) :
    Arrives step (first :: rest) item ↔
      item = first ∨ (∃ product, step first = .ok product) ∧ Arrives step rest item := by
  constructor
  · rintro ⟨front, back, same, passed⟩
    cases front with
    | nil => exact Or.inl (List.cons.inj same).1.symm
    | cons other front =>
      obtain ⟨rfl, sameRest⟩ := List.cons.inj same
      have further := fun earlier member => passed earlier (List.mem_cons_of_mem _ member)
      exact Or.inr ⟨passed _ List.mem_cons_self, front, back, sameRest, further⟩
  · rintro (rfl | ⟨here, front, back, rfl, passed⟩)
    · exact ⟨[], rest, rfl, fun _ member => absurd member List.not_mem_nil⟩
    · exact ⟨first :: front, back, rfl, List.forall_mem_cons.2 ⟨here, passed⟩⟩

/-- The steps for a list fail at an item at which they arrive and whose own step fails. -/
theorem mapM_eq_error_iff (step : Item → Except Fault Product) (items : List Item)
    (fault : Fault) :
    items.mapM step = .error fault ↔
      ∃ item, Arrives step items item ∧ step item = .error fault := by
  induction items with
  | nil =>
    refine iff_of_false nofun ?_
    rintro ⟨item, arrives, _⟩
    exact absurd arrives.mem List.not_mem_nil
  | cons first rest inductionHypothesis =>
    simp only [List.mapM_cons, bind_eq_error_iff, inductionHypothesis, arrives_cons_iff]
    constructor
    · rintro (here | ⟨product, passed, ⟨item, arrives, fails⟩ | ⟨_, _, impossible⟩⟩)
      · exact ⟨first, Or.inl rfl, here⟩
      · exact ⟨item, Or.inr ⟨⟨product, passed⟩, arrives⟩, fails⟩
      · cases impossible
    · rintro ⟨item, rfl | ⟨⟨product, passed⟩, arrives⟩, fails⟩
      · exact Or.inl fails
      · exact Or.inr ⟨product, passed, Or.inl ⟨item, arrives, fails⟩⟩

/-- Steps from one state to the next fail at the item whose step fails in the state to which the
items in front of it lead. -/
theorem foldlM_eq_error_iff (step : Product → Item → Except Fault Product) (items : List Item)
    (start : Product) (fault : Fault) :
    items.foldlM step start = .error fault ↔
      ∃ front item back state, items = front ++ item :: back ∧
        front.foldlM step start = .ok state ∧ step state item = .error fault := by
  induction items generalizing start with
  | nil => simp [pure, Except.pure]
  | cons first rest inductionHypothesis =>
    rw [List.foldlM_cons, bind_eq_error_iff]
    constructor
    · rintro (here | ⟨next, passed, further⟩)
      · exact ⟨[], first, rest, start, rfl, rfl, here⟩
      · obtain ⟨front, item, back, state, rfl, reached, fails⟩ :=
          (inductionHypothesis next).1 further
        refine ⟨first :: front, item, back, state, rfl, ?_, fails⟩
        rw [List.foldlM_cons, passed]
        exact reached
    · rintro ⟨front, item, back, state, same, reached, fails⟩
      cases front with
      | nil =>
        obtain ⟨rfl, rfl⟩ := List.cons.inj same
        exact Or.inl (Except.ok.inj reached ▸ fails)
      | cons other front =>
        obtain ⟨rfl, rfl⟩ := List.cons.inj same
        rw [List.foldlM_cons, bind_eq_ok_iff] at reached
        obtain ⟨next, passed, further⟩ := reached
        exact Or.inr ⟨next, passed,
          (inductionHypothesis next).2 ⟨front, item, back, state, rfl, further, fails⟩⟩

end ClientModel
