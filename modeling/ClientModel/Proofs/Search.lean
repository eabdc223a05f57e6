/-
This file proves that the search for declarations finds all that a list of names leads to and
nothing else. The search is taken as a system that makes one visit after another, in any order: a
visit takes a name that is pending, and if it is new, sees it and makes pending what its
declaration leads to. The main statements are that every run of visits comes to an end, that the
names seen at the end are those that the names at the start lead to, and that the search itself is
one such run.
-/

import ClientModel.Model.Reachability
import Mathlib.Data.List.Nodup
import Mathlib.Logic.Relation

namespace ClientModel.Reachability

/-! ### Names that names lead to -/

/-- The names that a list of names leads to, through the declarations of names among them. -/
inductive Leads (declarations : List Declaration) (roots : List String) : String → Prop
  | root {name : String} (member : name ∈ roots) : Leads declarations roots name
  | successor {declaration : Declaration} {name : String} (declared : declaration ∈ declarations)
      (reached : Leads declarations roots declaration.identifier)
      (member : name ∈ successors declaration) : Leads declarations roots name

/-! ### Visits -/

/-- Where a search stands: the names that were seen and those that are to be visited. -/
structure Search where
  seen : List String
  pending : List String

namespace Search

/-- A name that was seen or will be. -/
def Knows (search : Search) (name : String) : Prop := name ∈ search.seen ∨ name ∈ search.pending

/-- One visit. Which of the pending names is taken, and in which order names are pending
afterwards, is left open. -/
inductive Visit (declarations : List Declaration) : Search → Search → Prop
  | again {seen pending rest : List String} {name : String} (old : name ∈ seen)
      (taken : pending.Perm (name :: rest)) : Visit declarations ⟨seen, pending⟩ ⟨seen, rest⟩
  | undeclared {seen pending rest : List String} {name : String} (new : name ∉ seen)
      (missing : ∀ declaration ∈ declarations, declaration.identifier ≠ name)
      (taken : pending.Perm (name :: rest)) :
      Visit declarations ⟨seen, pending⟩ ⟨name :: seen, rest⟩
  | declared {seen pending rest next : List String} {declaration : Declaration}
      (new : declaration.identifier ∉ seen) (member : declaration ∈ declarations)
      (taken : pending.Perm (declaration.identifier :: rest))
      (added : next.Perm (successors declaration ++ rest)) :
      Visit declarations ⟨seen, pending⟩ ⟨declaration.identifier :: seen, next⟩

/-! ### Every run ends -/

/-- How many names the declarations may still make pending that were not seen. -/
def unseenSuccessors (seen : List String) : List Declaration → Nat
  | [] => 0
  | declaration :: rest =>
    (if declaration.identifier ∈ seen then 0 else (successors declaration).length) +
      unseenSuccessors seen rest

theorem unseenSuccessors_cons_le (name : String) (seen : List String)
    (declarations : List Declaration) :
    unseenSuccessors (name :: seen) declarations ≤ unseenSuccessors seen declarations := by
  induction declarations with
  | nil => exact Nat.le_refl _
  | cons declaration rest inductionHypothesis =>
    by_cases old : declaration.identifier ∈ seen
    · simpa [unseenSuccessors, old] using inductionHypothesis
    · simp only [unseenSuccessors, old, List.mem_cons, or_false, ↓reduceIte]
      split <;> omega

/-- Seeing a declaration uses up what it leads to. -/
theorem unseenSuccessors_cons_add_le {seen : List String} {declarations : List Declaration}
    {declaration : Declaration} (new : declaration.identifier ∉ seen)
    (member : declaration ∈ declarations) :
    unseenSuccessors (declaration.identifier :: seen) declarations +
      (successors declaration).length ≤ unseenSuccessors seen declarations := by
  induction declarations with
  | nil => cases member
  | cons other rest inductionHypothesis =>
    rcases List.mem_cons.1 member with rfl | further
    · have others := unseenSuccessors_cons_le declaration.identifier seen rest
      simp only [unseenSuccessors, new, List.mem_cons_self, ↓reduceIte]
      omega
    · have others := inductionHypothesis further
      simp only [unseenSuccessors, List.mem_cons]
      split <;> split <;> simp_all <;> omega

/-- How many visits are left at most. -/
def visitsLeft (declarations : List Declaration) (search : Search) : Nat :=
  search.pending.length + unseenSuccessors search.seen declarations

/-- A visit leaves fewer visits. -/
theorem visitsLeft_lt_of_visit {declarations : List Declaration} {search next : Search}
    (visit : Visit declarations search next) :
    next.visitsLeft declarations < search.visitsLeft declarations := by
  cases visit with
  | again old taken =>
    have length := taken.length_eq
    simp only [visitsLeft, length, List.length_cons]
    omega
  | @undeclared seen _ _ name new missing taken =>
    have length := taken.length_eq
    have fewer := unseenSuccessors_cons_le name seen declarations
    simp only [visitsLeft, length, List.length_cons]
    exact Nat.add_lt_add_of_lt_of_le (Nat.lt_succ_self _) fewer
  | declared new member taken added =>
    have length := taken.length_eq
    have nextLength := added.length_eq
    have fewer := unseenSuccessors_cons_add_le new member
    simp only [visitsLeft, length, nextLength, List.length_cons, List.length_append]
    omega

/-- No search goes on for ever. -/
theorem wellFounded_visit (declarations : List Declaration) :
    WellFounded fun next search => Visit declarations search next :=
  Subrelation.wf visitsLeft_lt_of_visit (measure (visitsLeft declarations)).wf

/-- A search with a pending name makes a further visit. -/
theorem exists_visit (declarations : List Declaration) {search : Search}
    (pending : search.pending ≠ []) : ∃ next, Visit declarations search next := by
  obtain ⟨seen, names⟩ := search
  obtain ⟨name, rest, rfl⟩ := List.exists_cons_of_ne_nil pending
  by_cases old : name ∈ seen
  · exact ⟨_, .again old (.refl _)⟩
  · by_cases declared : ∃ declaration ∈ declarations, declaration.identifier = name
    · obtain ⟨declaration, member, rfl⟩ := declared
      exact ⟨_, .declared old member (.refl _) (.refl _)⟩
    · exact ⟨_, .undeclared old (fun declaration member same =>
        declared ⟨declaration, member, same⟩) (.refl _)⟩

/-! ### What every visit keeps -/

/-- What holds of a search that started with some names: it knows them, it knows what the
declarations of seen names lead to, and it knows nothing else. -/
structure Faithful (declarations : List Declaration) (roots : List String) (search : Search) :
    Prop where
  started : ∀ name ∈ roots, search.Knows name
  closed : ∀ declaration ∈ declarations, declaration.identifier ∈ search.seen →
    ∀ name ∈ successors declaration, search.Knows name
  sound : ∀ name, search.Knows name → Leads declarations roots name

theorem faithful_start (declarations : List Declaration) (roots : List String) :
    Faithful declarations roots ⟨[], roots⟩ where
  started _ member := Or.inr member
  closed _ _ seen := absurd seen List.not_mem_nil
  sound _ known := .root (known.resolve_left List.not_mem_nil)

/-- A search that knows the same names and has seen no further declaration is as faithful. -/
theorem Faithful.of_knows_iff {declarations : List Declaration} {roots : List String}
    {search next : Search} (faithful : Faithful declarations roots search)
    (same : ∀ name, next.Knows name ↔ search.Knows name)
    (before : ∀ declaration ∈ declarations, declaration.identifier ∈ next.seen →
      declaration.identifier ∈ search.seen) : Faithful declarations roots next where
  started name member := (same name).2 (faithful.started name member)
  closed declaration member seen name leads :=
    (same name).2 (faithful.closed declaration member (before declaration member seen) name leads)
  sound name known := faithful.sound name ((same name).1 known)

/-- A visit keeps a search faithful, where identifiers are distinct. -/
theorem Faithful.visit {declarations : List Declaration} {roots : List String}
    (distinct : (declarations.map Declaration.identifier).Nodup) {search next : Search}
    (faithful : Faithful declarations roots search) (visit : Visit declarations search next) :
    Faithful declarations roots next := by
  cases visit with
  | @again seen pending rest name old taken =>
    refine faithful.of_knows_iff (fun other => ?_) fun _ _ seen => seen
    simp only [Knows, taken.mem_iff, List.mem_cons]
    grind
  | @undeclared seen pending rest name new missing taken =>
    refine faithful.of_knows_iff (fun other => ?_) fun declaration member nowSeen =>
      (List.mem_cons.1 nowSeen).resolve_left (missing declaration member)
    simp only [Knows, taken.mem_iff, List.mem_cons]
    grind
  | @declared seen pending rest added declaration new member taken order =>
    have same (other : String) : Knows ⟨declaration.identifier :: seen, added⟩ other ↔
        Knows ⟨seen, pending⟩ other ∨ other ∈ successors declaration := by
      simp only [Knows, taken.mem_iff, order.mem_iff, List.mem_cons, List.mem_append]
      grind
    refine ⟨fun other member => (same other).2 (Or.inl (faithful.started other member)),
      fun another anotherMember nowSeen other leads => (same other).2 ?_, fun other known => ?_⟩
    · rcases List.mem_cons.1 nowSeen with equal | before
      · have identical := List.inj_on_of_nodup_map distinct anotherMember member equal
        exact Or.inr (identical ▸ leads)
      · exact Or.inl (faithful.closed another anotherMember before other leads)
    · rcases (same other).1 known with old | leads
      · exact faithful.sound other old
      · have reached := faithful.sound declaration.identifier
          (Or.inr (taken.mem_iff.2 List.mem_cons_self))
        exact .successor member reached leads

/-- Whatever order the visits are made in, the search stays faithful. -/
theorem Faithful.visits {declarations : List Declaration} {roots : List String}
    (distinct : (declarations.map Declaration.identifier).Nodup) {search : Search}
    (visits : Relation.ReflTransGen (Visit declarations) ⟨[], roots⟩ search) :
    Faithful declarations roots search := by
  induction visits with
  | refl => exact faithful_start declarations roots
  | tail _ visit inductionHypothesis => exact inductionHypothesis.visit distinct visit

/-- A faithful search with nothing pending has seen what the roots lead to. -/
theorem Faithful.mem_seen_iff {declarations : List Declaration} {roots seen : List String}
    (faithful : Faithful declarations roots ⟨seen, []⟩) (name : String) :
    name ∈ seen ↔ Leads declarations roots name := by
  have known (other : String) : Knows ⟨seen, []⟩ other ↔ other ∈ seen := by simp [Knows]
  constructor
  · exact fun member => faithful.sound name ((known name).2 member)
  · intro leads
    induction leads with
    | root member => exact (known _).1 (faithful.started _ member)
    | successor declared _ member inductionHypothesis =>
      exact (known _).1 (faithful.closed _ declared inductionHypothesis _ member)

end Search

/-! ### The search as a run -/

/-- Taking a declaration out leaves the others. -/
theorem perm_of_take? {name : String} {declarations rest : List Declaration}
    {declaration : Declaration} (found : take? name declarations = some (declaration, rest)) :
    declaration.identifier = name ∧ declarations.Perm (declaration :: rest) := by
  induction declarations generalizing rest with
  | nil => simp [take?] at found
  | cons head tail inductionHypothesis =>
    unfold take? at found
    split at found
    · next same =>
      simp only [Option.some.injEq, Prod.mk.injEq] at found
      obtain ⟨rfl, rfl⟩ := found
      exact ⟨beq_iff_eq.1 same, .refl _⟩
    · simp only [Option.map_eq_some_iff, Prod.exists, Prod.mk.injEq] at found
      obtain ⟨other, remaining, taken, rfl, rfl⟩ := found
      obtain ⟨named, order⟩ := inductionHypothesis taken
      exact ⟨named, (order.cons head).trans (.swap _ _ _)⟩

/-- Nothing is taken out only where no declaration has the identifier. -/
theorem identifier_ne_of_take? {name : String} {declarations : List Declaration}
    (missing : take? name declarations = none) :
    ∀ declaration ∈ declarations, declaration.identifier ≠ name := by
  induction declarations with
  | nil => simp
  | cons head tail inductionHypothesis =>
    unfold take? at missing
    split at missing
    · cases missing
    · next different =>
      rw [Option.map_eq_none_iff] at missing
      intro declaration member
      rcases List.mem_cons.1 member with rfl | further
      · simpa using different
      · exact inductionHypothesis missing declaration further

/-- The search is a run of visits that ends with nothing pending. -/
theorem visits_visit {declarations unvisited : List Declaration} {seen pending : List String}
    (distinct : (unvisited.map Declaration.identifier).Nodup)
    (unseen : ∀ declaration, declaration ∈ unvisited ↔
      declaration ∈ declarations ∧ declaration.identifier ∉ seen) :
    Relation.ReflTransGen (Search.Visit declarations) ⟨seen, pending⟩
      ⟨visit unvisited seen pending, []⟩ := by
  -- What is unvisited stays exactly what is declared and not seen.
  fun_induction visit unvisited seen pending with
  | case1 => exact .refl
  | case2 unvisited seen name pending old inductionHypothesis =>
    refine .head (.again ?_ (.refl _)) (inductionHypothesis distinct unseen)
    simpa using old
  | case3 unvisited seen name pending new missing inductionHypothesis =>
    have different := identifier_ne_of_take? missing
    have isNew : name ∉ seen := by simpa using new
    have undeclared : ∀ declaration ∈ declarations, declaration.identifier ≠ name :=
      fun declaration member same =>
        different declaration ((unseen declaration).2 ⟨member, same ▸ isNew⟩) same
    refine .head (.undeclared isNew undeclared (.refl _)) (inductionHypothesis distinct ?_)
    intro declaration
    rw [unseen, List.mem_cons, not_or]
    exact and_congr_right fun member => (and_iff_right (undeclared declaration member)).symm
  | case4 unvisited seen name pending new declaration rest found inductionHypothesis =>
    obtain ⟨rfl, order⟩ := perm_of_take? found
    have isNew : declaration.identifier ∉ seen := by simpa using new
    have declared := ((unseen declaration).1 (order.mem_iff.2 List.mem_cons_self)).1
    rw [(order.map _).nodup_iff, List.map_cons, List.nodup_cons] at distinct
    refine .head (.declared isNew declared (.refl _) (.refl _))
      (inductionHypothesis distinct.2 fun other => ?_)
    have before := unseen other
    rw [order.mem_iff, List.mem_cons] at before
    rw [List.mem_cons, not_or]
    constructor
    · intro member
      have apart : other.identifier ≠ declaration.identifier :=
        fun same => distinct.1 (same ▸ List.mem_map_of_mem member)
      have old := before.1 (Or.inr member)
      exact ⟨old.1, apart, old.2⟩
    · rintro ⟨member, apart, notSeen⟩
      exact (before.2 ⟨member, notSeen⟩).resolve_left fun same => apart (same ▸ rfl)

/-- The search sees exactly what the roots lead to. -/
theorem mem_reachableNames_iff {declarations : List Declaration}
    (distinct : (declarations.map Declaration.identifier).Nodup) (roots : List String)
    (name : String) : name ∈ reachableNames declarations roots ↔ Leads declarations roots name :=
  (Search.Faithful.visits distinct
    (visits_visit distinct fun declaration => by simp)).mem_seen_iff name

end ClientModel.Reachability
