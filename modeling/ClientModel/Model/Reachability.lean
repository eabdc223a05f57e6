/-
This file finds the declarations that calls reach: those a call mentions, those the types of these
mention, and so on. The search keeps a list of names still to visit; it ends because every visit
takes one more declaration out of the unvisited ones, or shortens the list.
-/

import ClientModel.Model.Basic

namespace ClientModel.Reachability

/-! ### Names behind a declaration -/

/-- The names that a declaration leads to: the types it mentions and those it extends. -/
def successors (declaration : Declaration) : List String :=
  declaration.type.references ++ declaration.supertypes

/-- Takes the declaration of an identifier out of a list. -/
def take? (name : String) : List Declaration → Option (Declaration × List Declaration)
  | [] => none
  | declaration :: rest =>
    if declaration.identifier == name then some (declaration, rest)
    else (take? name rest).map fun found => (found.1, declaration :: found.2)

/-- What is left after taking one out is one shorter. -/
theorem length_of_take? {name : String} {declarations rest : List Declaration}
    {declaration : Declaration} (found : take? name declarations = some (declaration, rest)) :
    rest.length + 1 = declarations.length := by
  induction declarations generalizing rest with
  | nil => simp [take?] at found
  | cons head tail inductionHypothesis =>
    unfold take? at found
    split at found
    · simp only [Option.some.injEq, Prod.mk.injEq] at found
      simp [found.2]
    · simp only [Option.map_eq_some_iff, Prod.exists, Prod.mk.injEq] at found
      obtain ⟨other, remaining, taken, rfl, same⟩ := found
      simp [← same, inductionHypothesis taken]

/-! ### The search -/

/-- The names visited when none is left to visit. A name whose declaration is still unvisited adds
the names that it leads to. -/
def visit (unvisited : List Declaration) (seen : List String) : List String → List String
  | [] => seen
  | name :: pending =>
    if seen.contains name then visit unvisited seen pending
    else
      match _found : take? name unvisited with
      | none => visit unvisited (name :: seen) pending
      | some (declaration, rest) => visit rest (name :: seen) (successors declaration ++ pending)
termination_by pending => (unvisited.length, pending.length)
decreasing_by
  · exact Prod.Lex.right _ (by simp)
  · exact Prod.Lex.right _ (by simp)
  · exact Prod.Lex.left _ _ (by have := length_of_take? _found; omega)

/-- The names that a list of names leads to. -/
def reachableNames (declarations : List Declaration) (roots : List String) : List String :=
  visit declarations [] roots

/-- The declarations that a list of names leads to, in their order. -/
def reachable (declarations : List Declaration) (roots : List String) : List Declaration :=
  let names := reachableNames declarations roots
  declarations.filter fun declaration => names.contains declaration.identifier

end ClientModel.Reachability
