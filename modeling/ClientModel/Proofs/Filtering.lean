/-
This file proves that a model of wanted operations has exactly the declarations that these need.
What they need is said without the search: the least set of names that has those the calls mention
and, with the identifier of a declaration, those its type mentions. The search follows the types
that a declaration extends as well, which adds nothing, since the type itself mentions them.
-/

import ClientModel.Proofs.Declarations
import ClientModel.Proofs.Search
import ClientModel.Proofs.Success

namespace ClientModel

/-! ### Mentions -/

namespace TypeExpr

/-- A type in which the name of a declared type stands somewhere. -/
inductive Mentions (name : String) : TypeExpr → Prop
  | named : Mentions name (.named name)
  | array {items : TypeExpr} (inside : Mentions name items) : Mentions name (.array items)
  | mapping {values : TypeExpr} (inside : Mentions name values) : Mentions name (.mapping values)
  | nullable {inner : TypeExpr} (inside : Mentions name inner) : Mentions name (.nullable inner)
  | union {members : List TypeExpr} {member : TypeExpr} (among : member ∈ members)
      (inside : Mentions name member) : Mentions name (.union members)
  | intersection {members : List TypeExpr} {member : TypeExpr} (among : member ∈ members)
      (inside : Mentions name member) : Mentions name (.intersection members)
  | object {fields : List (FieldLabel × TypeExpr)} {field : FieldLabel × TypeExpr}
      (among : field ∈ fields) (inside : Mentions name field.2) : Mentions name (.object fields)

mutual

theorem mentions_of_mem_references {name : String} {type : TypeExpr}
    (member : name ∈ type.references) : type.Mentions name := by
  match type with
  | .named _ => rw [List.mem_singleton.1 member]; exact .named
  | .array items => exact .array (mentions_of_mem_references member)
  | .mapping values => exact .mapping (mentions_of_mem_references member)
  | .nullable inner => exact .nullable (mentions_of_mem_references member)
  | .union members =>
    obtain ⟨part, among, inside⟩ := exists_mentions_of_mem_members member
    exact .union among inside
  | .intersection members =>
    obtain ⟨part, among, inside⟩ := exists_mentions_of_mem_members member
    exact .intersection among inside
  | .object fields =>
    obtain ⟨field, among, inside⟩ := exists_mentions_of_mem_fields member
    exact .object among inside
  | .primitive _ | .literal _ | .unknown | .noContent => cases member

theorem exists_mentions_of_mem_members {name : String} {members : List TypeExpr}
    (member : name ∈ referencesOfMembers members) : ∃ part ∈ members, part.Mentions name := by
  match members with
  | [] => cases member
  | first :: rest =>
    rcases List.mem_append.1 member with here | further
    · exact ⟨first, List.mem_cons_self, mentions_of_mem_references here⟩
    · obtain ⟨part, among, inside⟩ := exists_mentions_of_mem_members further
      exact ⟨part, List.mem_cons_of_mem _ among, inside⟩

theorem exists_mentions_of_mem_fields {name : String} {fields : List (FieldLabel × TypeExpr)}
    (member : name ∈ referencesOfFields fields) : ∃ field ∈ fields, field.2.Mentions name := by
  match fields with
  | [] => cases member
  | (label, type) :: rest =>
    rcases List.mem_append.1 member with here | further
    · exact ⟨(label, type), List.mem_cons_self, mentions_of_mem_references here⟩
    · obtain ⟨field, among, inside⟩ := exists_mentions_of_mem_fields further
      exact ⟨field, List.mem_cons_of_mem _ among, inside⟩

end

/-- The references of a type are the names that stand in it. -/
theorem mem_references_iff (name : String) (type : TypeExpr) :
    name ∈ type.references ↔ type.Mentions name := by
  constructor
  · exact mentions_of_mem_references
  · intro mentions
    induction mentions with
    | named => exact List.mem_singleton_self name
    | array _ inductionHypothesis | mapping _ inductionHypothesis
    | nullable _ inductionHypothesis => exact inductionHypothesis
    | union among _ inductionHypothesis | intersection among _ inductionHypothesis =>
      rw [references, referencesOfMembers_eq_flatMap]
      exact List.mem_flatMap.2 ⟨_, among, inductionHypothesis⟩
    | object among _ inductionHypothesis =>
      rw [references, referencesOfFields_eq_flatMap]
      exact List.mem_flatMap.2 ⟨_, among, inductionHypothesis⟩

end TypeExpr

/-- A call in which the name of a declared type stands: in the type of an argument, of the body or
of the response. -/
def Call.Mentions (call : Call) (name : String) : Prop :=
  (∃ argument ∈ call.arguments, argument.type.Mentions name) ∨
    (∃ body ∈ call.body, body.type.Mentions name) ∨ call.responseType.Mentions name

theorem Call.mem_references_iff (call : Call) (name : String) :
    name ∈ call.references ↔ call.Mentions name := by
  cases body : call.body <;>
    simp [Call.references, Call.Mentions, body, TypeExpr.mem_references_iff]

theorem Namespace.mem_references_iff (root : Namespace) (name : String) :
    name ∈ root.references ↔ ∃ call ∈ root.walk, call.Mentions name := by
  simp [Namespace.references, Call.mem_references_iff]

/-- A model in which the name of a declared type stands: in a call, in the type of a declaration,
or among the types that a declaration extends. -/
def Model.Mentions (model : Model) (name : String) : Prop :=
  (∃ call ∈ model.root.walk, call.Mentions name) ∨
    ∃ declaration ∈ model.declarations,
      declaration.type.Mentions name ∨ name ∈ declaration.supertypes

/-! ### What calls need -/

/-- The least set of names that has those the calls mention and, with the identifier of a
declaration, those its type mentions. -/
inductive Namespace.Needs (root : Namespace) (declarations : List Declaration) : String → Prop
  | call {call : Call} {name : String} (member : call ∈ root.walk)
      (mentions : call.Mentions name) : Needs root declarations name
  | declaration {declaration : Declaration} {name : String} (declared : declaration ∈ declarations)
      (needed : Needs root declarations declaration.identifier)
      (mentions : declaration.type.Mentions name) : Needs root declarations name

/-- Where declarations extend only what their types mention, the search is led to what the calls
need. -/
theorem Reachability.leads_iff_needs {declarations : List Declaration}
    (mentioned : ∀ declaration ∈ declarations, ∀ name ∈ declaration.supertypes,
      name ∈ declaration.type.references) (root : Namespace) (name : String) :
    Leads declarations root.references name ↔ root.Needs declarations name := by
  constructor
  · intro leads
    induction leads with
    | root member =>
      obtain ⟨call, among, mentions⟩ := (Namespace.mem_references_iff root _).1 member
      exact .call among mentions
    | successor declared _ member inductionHypothesis =>
      refine .declaration declared inductionHypothesis ((TypeExpr.mem_references_iff _ _).1 ?_)
      exact (List.mem_append.1 member).elim id (mentioned _ declared _)
  · intro needs
    induction needs with
    | call member mentions =>
      exact .root ((Namespace.mem_references_iff root _).2 ⟨_, member, mentions⟩)
    | declaration declared _ mentions inductionHypothesis =>
      refine .successor declared inductionHypothesis (List.mem_append_left _ ?_)
      exact (TypeExpr.mem_references_iff _ _).2 mentions

/-! ### Filtered models -/

namespace Assembly

open Reachability (Search)

/-- In a document, the search is led to what the calls need. -/
theorem leads_iff_needs {document : Document} {all : List Declaration}
    (built : (declarations document).result = .ok all) (root : Namespace) (name : String) :
    Reachability.Leads all root.references name ↔ root.Needs all name := by
  refine Reachability.leads_iff_needs (fun declaration declared supertype member => ?_) root name
  obtain ⟨_, _, made⟩ := exists_schema_of_mem built declared
  exact made.mem_references member

/-- A declaration is kept if and only if the calls need it. -/
theorem mem_keptDeclarations_iff {document : Document} {all : List Declaration}
    (built : (declarations document).result = .ok all) (root : Namespace)
    (operationIds : List String) (declaration : Declaration) :
    declaration ∈ keptDeclarations all root (some operationIds) ↔
      declaration ∈ all ∧ root.Needs all declaration.identifier := by
  rw [← leads_iff_needs built, ← Reachability.mem_reachableNames_iff (nodup_identifiers built)]
  simp [keptDeclarations, Reachability.reachable]

/-- What a model mentions is needed by its calls. -/
theorem needs_of_mentions {document : Document} {all : List Declaration}
    (built : (declarations document).result = .ok all) {info : Info} {root : Namespace}
    {operationIds : List String} {name : String}
    (mentions : Model.Mentions ⟨info, keptDeclarations all root (some operationIds), root⟩ name) :
    root.Needs all name := by
  rcases mentions with ⟨call, among, mentions⟩ | ⟨declaration, kept, mentions⟩
  · exact .call among mentions
  · obtain ⟨declared, needed⟩ := (mem_keptDeclarations_iff built root operationIds _).1 kept
    refine .declaration declared needed (mentions.elim id fun member => ?_)
    obtain ⟨_, _, made⟩ := exists_schema_of_mem built declared
    exact (TypeExpr.mem_references_iff _ _).1 (made.mem_references member)

theorem declaration?_eq_none_iff (model : Model) (name : String) :
    model.declaration? name = none ↔
      ∀ declaration ∈ model.declarations, declaration.identifier ≠ name := by
  simp [Model.declaration?]

/-- A model that mentions the identifier of a schema declares it, whichever operations are
wanted. -/
theorem declaration?_ne_none_of_mentions {document : Document}
    {operationIds : Option (List String)} {model : Model}
    (built : (modelOf document operationIds).result = .ok model) {name : String}
    {node : SchemaNode} (member : (name, node) ∈ document.schemas)
    (mentions : model.Mentions (Naming.typeIdentifier name)) :
    model.declaration? (Naming.typeIdentifier name) ≠ none := by
  obtain ⟨all, root, declared, _, rfl⟩ := (result_modelOf_iff document operationIds model).1 built
  obtain ⟨declaration, among, same⟩ :=
    List.mem_map.1 (identifier_mem_of_mem_schemas declared member)
  rw [Ne, declaration?_eq_none_iff]
  intro undeclared
  refine undeclared declaration ?_ same
  cases operationIds with
  | none => exact among
  | some wanted =>
    have needed := needs_of_mentions declared mentions
    exact (mem_keptDeclarations_iff declared root wanted declaration).2 ⟨among, same ▸ needed⟩

open scoped Classical in
/-- A model of wanted operations has, of all declarations and in their order, exactly those that
its calls need. A search for them comes to an end whatever order it visits names in, and has seen
exactly what they need when it does. What the model mentions and does not declare, the model of
all operations does not declare either. -/
theorem filtered_modelOf {document : Document} (json : document.isJson = true)
    (operationIds : List String) :
    ∃ full filtered, (modelOf document none).result = .ok full ∧
      (modelOf document (some operationIds)).result = .ok filtered ∧
      filtered.declarations = full.declarations.filter (fun declaration =>
        filtered.root.Needs full.declarations declaration.identifier) ∧
      WellFounded (fun next search => Search.Visit full.declarations search next) ∧
      (∀ search, Relation.ReflTransGen (Search.Visit full.declarations)
          ⟨[], filtered.root.references⟩ search →
        (∃ next, Search.Visit full.declarations search next) ∨
          search.pending = [] ∧
            ∀ name, name ∈ search.seen ↔ filtered.root.Needs full.declarations name) ∧
      ∀ name, filtered.Mentions name → filtered.declaration? name = none →
        full.declaration? name = none := by
  obtain ⟨all, built⟩ := succeeds_declarations json
  obtain ⟨fullRoot, fullPlaced⟩ := succeeds_namespaceRoot json none
  obtain ⟨root, placed⟩ := succeeds_namespaceRoot json (some operationIds)
  have full := (result_modelOf_iff document none _).2 ⟨all, fullRoot, built, fullPlaced, rfl⟩
  have filtered :=
    (result_modelOf_iff document (some operationIds) _).2 ⟨all, root, built, placed, rfl⟩
  have distinct := nodup_identifiers built
  refine ⟨_, _, full, filtered, ?_, Search.wellFounded_visit _, ?_, ?_⟩
  · refine List.filter_congr fun declaration declared => ?_
    rw [Bool.eq_iff_iff, List.contains_iff_mem, decide_eq_true_iff,
      Reachability.mem_reachableNames_iff distinct, leads_iff_needs built]
    rfl
  · rintro ⟨seen, pending⟩ visits
    by_cases empty : pending = []
    · subst empty
      refine Or.inr ⟨rfl, fun name => ?_⟩
      rw [(Search.Faithful.visits distinct visits).mem_seen_iff]
      exact leads_iff_needs built root name
    · exact Or.inl (Search.exists_visit _ empty)
  · intro name mentions undeclared
    have needed := needs_of_mentions built mentions
    rw [declaration?_eq_none_iff] at undeclared ⊢
    intro declaration declared same
    refine undeclared declaration ?_ same
    exact (mem_keptDeclarations_iff built root operationIds declaration).2 ⟨declared, same ▸ needed⟩

/-- A document whose operation answers with a schema that mentions itself and one that is not
there, beside a schema that nothing mentions. -/
def circularDocument : Document where
  version := "3.0.0"
  info := ⟨"Trees", "1", none⟩
  servers := []
  schemas :=
    [("node", .object {} (some [("next", .reference {} "#/components/schemas/node"),
        ("label", .reference {} "#/components/schemas/label")]) [] .unspecified),
      ("spare", .primitive {} "string")]
  operations :=
    [{ path := "/nodes", verb := .get, operationId := some "nodes/list", summary := none
       description := none, tags := [], deprecated := false, parameters := []
       requestBody := none
       responses := [("200", ⟨"200", none, ["application/json"], true,
        some (.array {} (some (.reference {} "#/components/schemas/node")))⟩)] }]

open scoped Classical in
theorem filtered_modelOf_circularDocument :
    circularDocument.isJson = true ∧
      ∃ full filtered, (modelOf circularDocument none).result = .ok full ∧
        (modelOf circularDocument (some ["nodes/list"])).result = .ok filtered ∧
        filtered.declarations = full.declarations.filter (fun declaration =>
          filtered.root.Needs full.declarations declaration.identifier) := by
  have json : circularDocument.isJson = true := by decide
  obtain ⟨full, filtered, built, kept, same, _⟩ := filtered_modelOf json ["nodes/list"]
  exact ⟨json, full, filtered, built, kept, same⟩

end Assembly

end ClientModel
