/-
This file says what a configuration is after entries were put into it one after another. The main
statement lists its entries: those that were there, each replaced by the latest of its name, and
behind them the new ones, in the order in which their names were first put. That an entry which is
put again changes nothing is said beside it.
-/

import ClientModel.Configuration.Basic
import Mathlib.Data.List.Nodup

namespace ClientModel.Project

/-! ### Names -/

/-- The names of the entries, in their order. -/
def names (project : Project) : List String := project.apis.map ApiEntry.name

/-- The entry of a name. -/
def api? (name : String) (project : Project) : Option ApiEntry :=
  project.apis.find? (·.name == name)

theorem has_iff (name : String) (project : Project) :
    project.has name = true ↔ name ∈ project.names := by
  simp [has, names]

theorem isSome_api?_iff (name : String) (project : Project) :
    (project.api? name).isSome = true ↔ name ∈ project.names := by
  simp [api?, names]

theorem name_of_api? {name : String} {project : Project} {entry : ApiEntry}
    (found : project.api? name = some entry) : entry.name = name := by
  unfold api? at found
  have same := List.find?_some found
  exact beq_iff_eq.1 same

/-! ### One entry -/

/-- What stands in the place of an entry after one was put. -/
def inPlaceOf (entry existing : ApiEntry) : ApiEntry :=
  if existing.name == entry.name then entry else existing

theorem name_inPlaceOf (entry existing : ApiEntry) :
    (inPlaceOf entry existing).name = existing.name := by
  unfold inPlaceOf
  split
  · next same => exact (beq_iff_eq.1 same).symm
  · rfl

theorem apis_put_of_mem {entry : ApiEntry} {project : Project}
    (known : entry.name ∈ project.names) :
    (project.put entry).apis = project.apis.map (inPlaceOf entry) := by
  rw [put, if_pos ((has_iff _ _).2 known)]
  rfl

theorem apis_put_of_not_mem {entry : ApiEntry} {project : Project}
    (fresh : entry.name ∉ project.names) :
    (project.put entry).apis = project.apis ++ [entry] := by
  rw [put, if_neg (mt (has_iff _ _).1 fresh)]

theorem names_put (entry : ApiEntry) (project : Project) :
    (project.put entry).names =
      if entry.name ∈ project.names then project.names else project.names ++ [entry.name] := by
  unfold names at *
  split
  · next known =>
    rw [apis_put_of_mem known, List.map_map]
    exact List.map_congr_left fun existing _ => name_inPlaceOf entry existing
  · next fresh =>
    rw [apis_put_of_not_mem fresh, List.map_append]
    rfl

theorem nodup_names_put {project : Project} (distinct : project.names.Nodup) (entry : ApiEntry) :
    (project.put entry).names.Nodup := by
  rw [names_put]
  split
  · exact distinct
  · next fresh =>
    refine List.nodup_append.2 ⟨distinct, by simp, ?_⟩
    rintro name member _ only rfl
    exact fresh (List.mem_singleton.1 only ▸ member)

/-- The entry that was put is found under its name, and under every other name what was found
before. -/
theorem api?_put (name : String) (entry : ApiEntry) (project : Project) :
    (project.put entry).api? name =
      if entry.name = name then some entry else project.api? name := by
  by_cases known : entry.name ∈ project.names
  · have found : (project.put entry).api? name =
        (project.api? name).map (inPlaceOf entry) := by
      have same : ((·.name == name) ∘ inPlaceOf entry) = (·.name == name) := by
        funext existing
        simp [name_inPlaceOf]
      rw [api?, apis_put_of_mem known, List.find?_map, same, api?]
    rw [found]
    cases here : project.api? name with
    | none =>
      have absent : name ∉ project.names := by
        rw [← isSome_api?_iff, here]
        exact Bool.false_ne_true
      rw [if_neg fun same : entry.name = name => absent (same ▸ known)]
      rfl
    | some existing =>
      have named := name_of_api? here
      simp only [Option.map_some, inPlaceOf, named, beq_iff_eq, eq_comm (a := name)]
      split <;> rfl
  · rw [api?, apis_put_of_not_mem known, List.find?_append, ← api?]
    split
    · next same =>
      subst same
      have absent : project.api? entry.name = none := by
        simpa using mt (isSome_api?_iff _ _).1 known
      simp [absent]
    · next different => simp [different]

/-- An entry that is there already changes nothing where names are different. -/
theorem put_eq_self {project : Project} (distinct : project.names.Nodup) {entry : ApiEntry}
    (here : project.api? entry.name = some entry) : project.put entry = project := by
  have known : entry.name ∈ project.names := by
    rw [← isSome_api?_iff, here]
    rfl
  have member : entry ∈ project.apis := List.mem_of_find?_eq_some here
  have unchanged : (project.put entry).apis = project.apis := by
    rw [apis_put_of_mem known]
    refine (List.map_congr_left fun existing among => ?_).trans (List.map_id _)
    unfold inPlaceOf
    split
    · next same =>
      exact (List.inj_on_of_nodup_map distinct among member (beq_iff_eq.1 same)).symm
    · rfl
  exact congrArg Project.mk unchanged

/-! ### Many entries -/

/-- Puts entries one after another. -/
def putAll (entries : List ApiEntry) (project : Project) : Project :=
  entries.foldl (fun project entry => project.put entry) project

/-- The last entry of a name in a list. -/
def latest? (name : String) (entries : List ApiEntry) : Option ApiEntry :=
  entries.reverse.find? (·.name == name)

/-- The names in a list of entries that a configuration has not, in their order, each once. -/
def newNames (entries : List ApiEntry) (project : Project) : List String :=
  ((entries.map ApiEntry.name).filter (· ∉ project.names)).eraseDups

theorem latest?_cons (name : String) (entry : ApiEntry) (rest : List ApiEntry) :
    latest? name (entry :: rest) =
      (latest? name rest).or (if entry.name = name then some entry else none) := by
  simp [latest?, List.find?_append]

/-- A name that no entry has, has no last entry. -/
theorem latest?_eq_none {name : String} {entries : List ApiEntry}
    (unnamed : ∀ entry ∈ entries, entry.name ≠ name) : latest? name entries = none := by
  refine List.find?_eq_none.2 fun entry member => ?_
  simpa using unnamed entry (List.mem_reverse.1 member)

theorem putAll_cons (entry : ApiEntry) (rest : List ApiEntry) (project : Project) :
    project.putAll (entry :: rest) = (project.put entry).putAll rest := rfl

theorem nodup_names_putAll {project : Project} (distinct : project.names.Nodup)
    (entries : List ApiEntry) : (project.putAll entries).names.Nodup := by
  induction entries generalizing project with
  | nil => exact distinct
  | cons entry rest inductionHypothesis =>
    exact inductionHypothesis (nodup_names_put distinct entry)

/-- Under a name stands the last entry of that name that was put, else what was there. -/
theorem api?_putAll (name : String) (entries : List ApiEntry) (project : Project) :
    (project.putAll entries).api? name = (latest? name entries).or (project.api? name) := by
  induction entries generalizing project with
  | nil => rfl
  | cons entry rest inductionHypothesis =>
    rw [putAll_cons, inductionHypothesis, api?_put, latest?_cons, Option.or_assoc]
    split <;> rfl

theorem newNames_congr (entries : List ApiEntry) {project other : Project}
    (same : project.names = other.names) : newNames entries project = newNames entries other := by
  rw [newNames, newNames, same]

theorem not_mem_names_of_mem_newNames {name : String} {entries : List ApiEntry}
    {project : Project} (member : name ∈ newNames entries project) : name ∉ project.names := by
  simp only [newNames, List.mem_eraseDups, List.mem_filter, decide_eq_true_eq] at member
  exact member.2

theorem newNames_cons (entry : ApiEntry) (rest : List ApiEntry) (project : Project) :
    newNames (entry :: rest) project =
      if entry.name ∈ project.names then newNames rest project
      else entry.name :: newNames rest (project.put entry) := by
  unfold newNames
  rw [List.map_cons, List.filter_cons]
  by_cases known : entry.name ∈ project.names
  · simp [known]
  · simp only [known, not_false_eq_true, decide_true, if_true, if_false, List.eraseDups_cons,
      names_put, List.filter_filter]
    congr 3
    funext name
    rw [Bool.eq_iff_iff]
    simp [not_or, and_comm]

theorem getD_latest?_cons (entry existing : ApiEntry) (rest : List ApiEntry) :
    (latest? existing.name (entry :: rest)).getD existing =
      (latest? existing.name rest).getD (inPlaceOf entry existing) := by
  rw [latest?_cons, inPlaceOf]
  cases latest? existing.name rest with
  | some last => rfl
  | none =>
    simp only [Option.none_or, Option.getD_none, beq_iff_eq, eq_comm (a := existing.name)]
    split <;> rfl

/-- The entries that were there keep their places, each replaced by the last of its name; the new
ones come behind them in the order in which their names were first put. -/
theorem apis_putAll (entries : List ApiEntry) (project : Project) :
    (project.putAll entries).apis =
      project.apis.map (fun existing => (latest? existing.name entries).getD existing) ++
        (newNames entries project).filterMap (latest? · entries) := by
  induction entries generalizing project with
  | nil => simp [putAll, newNames, latest?]
  | cons entry rest inductionHypothesis =>
    -- A name that is still new after this entry is not its name.
    have further : (newNames rest (project.put entry)).filterMap (latest? · (entry :: rest)) =
        (newNames rest (project.put entry)).filterMap (latest? · rest) := by
      refine List.filterMap_congr fun name member => ?_
      have fresh := not_mem_names_of_mem_newNames member
      have different : entry.name ≠ name := by
        rintro rfl
        rw [← isSome_api?_iff, api?_put, if_pos rfl] at fresh
        exact fresh rfl
      rw [latest?_cons, if_neg different, Option.or_none]
    rw [putAll_cons, inductionHypothesis, newNames_cons, ← further]
    simp only [getD_latest?_cons]
    by_cases known : entry.name ∈ project.names
    · have names : (project.put entry).names = project.names := by rw [names_put, if_pos known]
      rw [if_pos known, newNames_congr rest names, apis_put_of_mem known, List.map_map]
      simp only [Function.comp_def, name_inPlaceOf]
    · have kept : ∀ existing ∈ project.apis, inPlaceOf entry existing = existing := by
        intro existing member
        refine if_neg fun same => known ?_
        exact beq_iff_eq.1 same ▸ List.mem_map_of_mem member
      have last : latest? entry.name (entry :: rest) =
          some ((latest? entry.name rest).getD entry) := by
        rw [latest?_cons, if_pos rfl]
        cases latest? entry.name rest <;> rfl
      have first := List.filterMap_cons_some (f := (latest? · (entry :: rest)))
        (l := newNames rest (project.put entry)) last
      rw [if_neg known, apis_put_of_not_mem known, first, List.map_append, List.append_assoc]
      refine congrArg (· ++ _) (List.map_congr_left fun existing member => ?_)
      rw [kept existing member]

/-- An entry whose name is never put again stays as it is. -/
theorem mem_apis_putAll {entries : List ApiEntry} {project : Project} {existing : ApiEntry}
    (member : existing ∈ project.apis)
    (unnamed : ∀ entry ∈ entries, entry.name ≠ existing.name) :
    existing ∈ (project.putAll entries).apis := by
  rw [apis_putAll]
  refine List.mem_append_left _ (List.mem_map.2 ⟨existing, member, ?_⟩)
  rw [latest?_eq_none unnamed]
  rfl

theorem names_putAll (entries : List ApiEntry) (project : Project) :
    (project.putAll entries).names = project.names ++ newNames entries project := by
  induction entries generalizing project with
  | nil => simp [putAll, newNames]
  | cons entry rest inductionHypothesis =>
    rw [putAll_cons, inductionHypothesis, newNames_cons]
    split
    · next known =>
      have names : (project.put entry).names = project.names := by rw [names_put, if_pos known]
      rw [names, newNames_congr rest names]
    · next fresh => rw [names_put, if_neg fresh, List.append_assoc, List.singleton_append]

end ClientModel.Project
