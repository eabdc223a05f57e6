/-
This file says where a chain of references leads. What a reference points to depends on its pointer
alone, so a chain that meets a pointer twice goes on for ever, and one that ends meets all of its
pointers once. The main statement is that following references gives the end of the chain exactly
if it has one within thirty-two hops, and which of three faults it reports where it has none: a
pointer that leads nowhere, one that was followed before, or one hop too many.
-/

import ClientModel.Document.Pointer
import Mathlib.Data.List.Nodup

namespace ClientModel.Pointer

/-! ### Hops -/

/-- What a reference points to; nothing for a value that is none, or whose pointer leads
nowhere. -/
def referent? (root value : Value) : Option Value :=
  (reference? value).bind fun pointer => (resolve pointer root).toOption

/-- The value of a chain after a number of hops, where the chain goes that far. -/
def afterHops? (root value : Value) : Nat → Option Value
  | 0 => some value
  | hops + 1 => (afterHops? root value hops).bind (referent? root)

/-- The pointers that are followed in the first hops of a chain. -/
def pointersOf (root value : Value) (hops : Nat) : List String :=
  (List.range hops).filterMap fun hop => (afterHops? root value hop).bind reference?

section

variable {root value current : Value} {pointer : String} {hops : Nat}

theorem referent?_eq_some {next : Value} (refers : reference? current = some pointer)
    (leads : resolve pointer root = .ok next) : referent? root current = some next := by
  rw [referent?, refers, Option.bind_some, leads]
  rfl

theorem referent?_eq_none_of_error {fault : DocumentError}
    (refers : reference? current = some pointer) (fails : resolve pointer root = .error fault) :
    referent? root current = none := by
  rw [referent?, refers, Option.bind_some, fails]
  rfl

theorem referent?_eq_none_of_last (last : reference? current = none) :
    referent? root current = none := by
  rw [referent?, last, Option.bind_none]

/-- References with one pointer point to one value. -/
theorem referent?_congr {other : Value} (same : reference? current = reference? other) :
    referent? root current = referent? root other := by
  rw [referent?, referent?, same]

theorem afterHops?_succ (reached : afterHops? root value hops = some current) :
    afterHops? root value (hops + 1) = referent? root current := by
  rw [afterHops?, reached, Option.bind_some]

/-- Hops after hops are hops from where the first ones lead. -/
theorem afterHops?_add (root value : Value) (first second : Nat) :
    afterHops? root value (first + second) =
      (afterHops? root value first).bind fun current => afterHops? root current second := by
  induction second with
  | zero => exact (Option.bind_fun_some _).symm
  | succ second inductionHypothesis =>
    rw [← Nat.add_assoc, afterHops?, inductionHypothesis, Option.bind_assoc]
    rfl

theorem pointersOf_succ (reached : afterHops? root value hops = some current)
    (refers : reference? current = some pointer) :
    pointersOf root value (hops + 1) = pointersOf root value hops ++ [pointer] := by
  simp [pointersOf, List.range_succ, reached, refers]

/-- A pointer that is followed is that of a value on the chain. -/
theorem exists_of_mem_pointersOf (member : pointer ∈ pointersOf root value hops) :
    ∃ hop < hops, ∃ earlier, afterHops? root value hop = some earlier ∧
      reference? earlier = some pointer := by
  obtain ⟨hop, within, here⟩ := List.mem_filterMap.1 member
  obtain ⟨earlier, reached, refers⟩ := Option.bind_eq_some_iff.1 here
  exact ⟨hop, List.mem_range.1 within, earlier, reached, refers⟩

end

/-! ### Chains that stop -/

section

variable {root value current : Value} {hops : Nat}

/-- Nothing comes after a value that points to nothing. -/
theorem afterHops?_succ_of_stop (stop : referent? root current = none) (further : Nat) :
    afterHops? root current (further + 1) = none := by
  rw [Nat.add_comm, afterHops?_add, afterHops?_succ rfl, stop, Option.bind_none]

variable (reached : afterHops? root value hops = some current)
  (stop : referent? root current = none)

include reached stop

/-- A chain has no value after the one at which it stops. -/
theorem le_of_stop {hop : Nat} {other : Value} (met : afterHops? root value hop = some other) :
    hop ≤ hops := by
  by_contra beyond
  obtain ⟨further, rfl⟩ := Nat.exists_eq_add_of_lt (Nat.lt_of_not_le beyond)
  rw [Nat.add_assoc, afterHops?_add, reached, Option.bind_some, afterHops?_succ_of_stop stop]
    at met
  cases met

/-- There is one number of hops after which a chain stops. -/
theorem hops_eq_of_stop {hop : Nat} {other : Value}
    (met : afterHops? root value hop = some other) (stays : referent? root other = none) :
    hop = hops :=
  Nat.le_antisymm (le_of_stop reached stop met) (le_of_stop met stays reached)

/-- A chain that stops has each pointer once: what comes after a pointer is the same wherever the
pointer stands, and so is the number of hops that are left. -/
theorem hop_eq_of_reference? {hop hop' : Nat} {earlier later : Value}
    (first : afterHops? root value hop = some earlier)
    (second : afterHops? root value hop' = some later)
    (same : reference? earlier = reference? later) : hop = hop' := by
  have together : referent? root earlier = referent? root later := referent?_congr same
  cases next : referent? root earlier with
  | none =>
    rw [hops_eq_of_stop reached stop first next,
      hops_eq_of_stop reached stop second (together ▸ next)]
  | some following =>
    have afterFirst := (afterHops?_succ first).trans next
    have afterSecond := (afterHops?_succ second).trans (together ▸ next)
    -- From the next value on there is one chain, so as many hops are left behind either of them.
    have remaining {start : Nat} (met : afterHops? root value start = some following) :
        ∃ left, hops = start + left ∧ afterHops? root following left = some current := by
      obtain ⟨left, rfl⟩ := Nat.exists_eq_add_of_le (le_of_stop reached stop met)
      refine ⟨left, rfl, ?_⟩
      rw [← reached, afterHops?_add, met, Option.bind_some]
    obtain ⟨left, total, ends⟩ := remaining afterFirst
    obtain ⟨left', total', ends'⟩ := remaining afterSecond
    have equal := hops_eq_of_stop ends' stop ends stop
    omega

theorem nodup_pointersOf : (pointersOf root value hops).Nodup := by
  refine List.Nodup.filterMap (fun hop hop' pointer first second => ?_) List.nodup_range
  obtain ⟨earlier, met, refers⟩ := Option.bind_eq_some_iff.1 first
  obtain ⟨later, met', refers'⟩ := Option.bind_eq_some_iff.1 second
  exact hop_eq_of_reference? reached stop met met' (refers.trans refers'.symm)

end

/-! ### Following -/

/-- A chain gets to a value within the bound, and has met no pointer twice. -/
structure Arrives (root value : Value) (hops : Nat) (current : Value) : Prop where
  within : hops ≤ longestChain
  reached : afterHops? root value hops = some current
  distinct : (pointersOf root value hops).Nodup

section

variable {root value current : Value} {pointer : String} {hops : Nat}

theorem follow_of_last (last : reference? current = none) (seen : List String) :
    follow root hops seen current = .ok current := by
  cases hops <;> simp only [follow_zero_eq, follow_succ_eq, last]

theorem follow_of_mem {seen : List String} (refers : reference? current = some pointer)
    (again : pointer ∈ seen) :
    follow root hops seen current = .error (.circular (seen ++ [pointer])) := by
  cases hops <;> simp only [follow_zero_eq, follow_succ_eq, refers, List.contains_iff_mem, again,
    if_true]

theorem follow_zero (refers : reference? current = some pointer) (seen : List String) :
    follow root 0 seen current = .error (.circular (seen ++ [pointer])) := by
  rw [follow_zero_eq, refers]

theorem follow_succ {seen : List String} (refers : reference? current = some pointer)
    (fresh : pointer ∉ seen) :
    follow root (hops + 1) seen current =
      (resolve pointer root).bind (follow root hops (seen ++ [pointer])) := by
  simp only [follow_succ_eq, refers, List.contains_iff_mem, fresh, if_false]

theorem Arrives.start (root value : Value) : Arrives root value 0 value :=
  ⟨Nat.zero_le _, rfl, List.nodup_nil⟩

/-- A chain that stops within the bound arrives. -/
theorem arrives_of_stop (within : hops ≤ longestChain)
    (reached : afterHops? root value hops = some current)
    (stop : referent? root current = none) : Arrives root value hops current :=
  ⟨within, reached, nodup_pointersOf reached stop⟩

theorem Arrives.succ {next : Value} (arrives : Arrives root value hops current)
    (more : hops < longestChain) (refers : reference? current = some pointer)
    (fresh : pointer ∉ pointersOf root value hops) (leads : resolve pointer root = .ok next) :
    Arrives root value (hops + 1) next where
  within := more
  reached := (afterHops?_succ arrives.reached).trans (referent?_eq_some refers leads)
  distinct := by
    rw [pointersOf_succ arrives.reached refers]
    exact List.nodup_append.2 ⟨arrives.distinct, List.nodup_singleton _,
      fun other member _ last same => fresh (List.mem_singleton.1 last ▸ same ▸ member)⟩

/-- Where a chain arrives, the rest of it is followed with the hops that are left. -/
theorem Arrives.dereference_eq (arrives : Arrives root value hops current) :
    dereference root value =
      follow root (longestChain - hops) (pointersOf root value hops) current := by
  induction hops generalizing current with
  | zero =>
    obtain rfl := Option.some.inj arrives.reached
    rfl
  | succ hops inductionHypothesis =>
    obtain ⟨before, reached, here⟩ := Option.bind_eq_some_iff.1 arrives.reached
    obtain ⟨pointer, refers, found⟩ := Option.bind_eq_some_iff.1 here
    have leads : resolve pointer root = .ok current := by
      cases outcome : resolve pointer root with
      | ok next => rw [outcome] at found; exact congrArg Except.ok (Option.some.inj found)
      | error fault => rw [outcome] at found; cases found
    have distinct := arrives.distinct
    rw [pointersOf_succ reached refers, List.nodup_append] at distinct
    obtain ⟨distinct, -, apart⟩ := distinct
    have fresh : pointer ∉ pointersOf root value hops := fun member =>
      apart pointer member pointer (List.mem_singleton_self _) rfl
    have left : longestChain - hops = longestChain - (hops + 1) + 1 := by
      have := arrives.within
      omega
    rw [inductionHypothesis ⟨Nat.le_of_succ_le arrives.within, reached, distinct⟩, left,
      follow_succ refers fresh, leads, pointersOf_succ reached refers]
    rfl

end

/-! ### Outcomes -/

/-- The faults that following a chain of references reports. -/
inductive Breaks (root value : Value) : DocumentError → Prop
  /-- A pointer leads nowhere. -/
  | nowhere {hops : Nat} {current : Value} {pointer : String} {fault : DocumentError}
      (within : hops < longestChain) (reached : afterHops? root value hops = some current)
      (refers : reference? current = some pointer) (fails : resolve pointer root = .error fault) :
      Breaks root value fault
  /-- A pointer was followed before. -/
  | again {hops : Nat} {current : Value} {pointer : String}
      (arrives : Arrives root value hops current) (refers : reference? current = some pointer)
      (met : pointer ∈ pointersOf root value hops) :
      Breaks root value (.circular (pointersOf root value hops ++ [pointer]))
  /-- The chain goes on after as many hops as are allowed. -/
  | overlong {current : Value} {pointer : String}
      (arrives : Arrives root value longestChain current)
      (refers : reference? current = some pointer) :
      Breaks root value (.circular (pointersOf root value longestChain ++ [pointer]))

theorem dereference_of_breaks {root value : Value} {fault : DocumentError}
    (breaks : Breaks root value fault) : dereference root value = .error fault := by
  cases breaks with
  | @nowhere hops current pointer _ within reached refers fails =>
    have stop := referent?_eq_none_of_error refers fails
    have arrives := arrives_of_stop (Nat.le_of_lt within) reached stop
    have fresh : pointer ∉ pointersOf root value hops := fun member => by
      obtain ⟨hop, earlier, _, met, same⟩ := exists_of_mem_pointersOf member
      have equal := hop_eq_of_reference? reached stop met reached (same.trans refers.symm)
      omega
    have left : longestChain - hops = longestChain - (hops + 1) + 1 := by omega
    rw [arrives.dereference_eq, left, follow_succ refers fresh, fails]
    rfl
  | again arrives refers met => rw [arrives.dereference_eq, follow_of_mem refers met]
  | overlong arrives refers =>
    rw [arrives.dereference_eq, Nat.sub_self, follow_zero refers]

/-- From where a chain arrives it comes to its end, or breaks. The induction is on the hops that
are left. -/
theorem Arrives.exists_end_or_breaks {root value current : Value} {hops : Nat}
    (arrives : Arrives root value hops current) :
    (∃ hops ≤ longestChain, ∃ result, afterHops? root value hops = some result ∧
      reference? result = none) ∨ ∃ fault, Breaks root value fault := by
  induction left : longestChain - hops generalizing hops current with
  | zero =>
    obtain rfl : hops = longestChain := by
      have := arrives.within
      omega
    cases refers : reference? current with
    | none => exact Or.inl ⟨_, Nat.le_refl _, current, arrives.reached, refers⟩
    | some pointer => exact Or.inr ⟨_, .overlong arrives refers⟩
  | succ left' inductionHypothesis =>
    have more : hops < longestChain := by omega
    cases refers : reference? current with
    | none => exact Or.inl ⟨hops, Nat.le_of_lt more, current, arrives.reached, refers⟩
    | some pointer =>
      by_cases met : pointer ∈ pointersOf root value hops
      · exact Or.inr ⟨_, .again arrives refers met⟩
      · cases leads : resolve pointer root with
        | error fault => exact Or.inr ⟨fault, .nowhere more arrives.reached refers leads⟩
        | ok next => exact inductionHypothesis (arrives.succ more refers met leads) (by omega)

/-- Following references gives the value that a chain of at most thirty-two hops comes to and that
is no reference itself. Where there is none, it reports how the chain breaks. -/
theorem dereference_iff (root value : Value) :
    (∀ result, dereference root value = .ok result ↔
      ∃ hops ≤ 32, afterHops? root value hops = some result ∧ reference? result = none) ∧
    ∀ fault, dereference root value = .error fault ↔ Breaks root value fault := by
  have ends {hops : Nat} {result : Value} (within : hops ≤ longestChain)
      (reached : afterHops? root value hops = some result) (last : reference? result = none) :
      dereference root value = .ok result := by
    have arrives := arrives_of_stop within reached (referent?_eq_none_of_last last)
    rw [arrives.dereference_eq, follow_of_last last]
  have either := (Arrives.start root value).exists_end_or_breaks
  constructor
  · intro result
    constructor
    · intro found
      rcases either with ⟨hops, within, other, reached, last⟩ | ⟨fault, breaks⟩
      · obtain rfl := Except.ok.inj ((ends within reached last).symm.trans found)
        exact ⟨hops, within, reached, last⟩
      · cases (dereference_of_breaks breaks).symm.trans found
    · rintro ⟨hops, within, reached, last⟩
      exact ends within reached last
  · intro fault
    constructor
    · intro failed
      rcases either with ⟨hops, within, other, reached, last⟩ | ⟨other, breaks⟩
      · cases (ends within reached last).symm.trans failed
      · exact Except.error.inj ((dereference_of_breaks breaks).symm.trans failed) ▸ breaks
    · exact dereference_of_breaks

end ClientModel.Pointer
