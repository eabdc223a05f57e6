/-
This file says which parameters of a path an operation overrides. Parameters are told apart by
their names and places as the document writes them; what is read of them later is the text of the
name and of the place, where a missing place counts as the query. The main statement is that the
operation has the parameters of its path without those it overrides, then its own, and that this
is what the names and places that were read say exactly if both ways to tell parameters apart agree
on the parameters of the path.
-/

import ClientModel.Proofs.Operations

namespace ClientModel

/-! ### Names and places -/

/-- The name and the place of a parameter. -/
def Parameter.place (parameter : Parameter) : String × String :=
  (parameter.name, parameter.location)

/-- A parameter has the name and place of one of these. -/
def Parameter.isShadowed (others : List Parameter) (parameter : Parameter) : Bool :=
  others.any (·.place == parameter.place)

namespace Extraction

/-- The name and the place that are read of a parameter. -/
def placeOf (fields : Entries) : String × String :=
  (((fields.get? "name").getD (.string "")).text, ((fields.get? "in").getD (.string "query")).text)

/-- The name and place read of a parameter are those of one of these. -/
def isShadowed (others : List Entries) (fields : Entries) : Bool :=
  others.any (placeOf · == placeOf fields)

/-- A parameter whose place is a text and whose name is one, or is left out. -/
structure IsPlainlyPlaced (fields : Entries) : Prop where
  name : fields.get? "name" = none ∨ ∃ text, fields.get? "name" = some (.string text)
  location : ∃ text, fields.get? "in" = some (.string text)

theorem place_of_parameter {fields : Entries} {read : Parameter}
    (made : parameter fields = .ok read) : read.place = placeOf fields := by
  simp only [parameter, bind_eq_ok_iff, pure, Except.pure, Except.ok.injEq] at made
  obtain ⟨schema, _, rfl⟩ := made
  rfl

theorem map_place_of_mapM {maps : List Entries} {read : List Parameter}
    (made : maps.mapM parameter = .ok read) : read.map Parameter.place = maps.map placeOf := by
  refine Placement.map_key_of_forall₂ _ ?_ ((mapM_eq_ok_iff parameter maps read).1 made)
  intro fields one made
  exact place_of_parameter made

theorem sameParameterKey_of_isPlainlyPlaced {first second : Entries}
    (plain : IsPlainlyPlaced first) (plain' : IsPlainlyPlaced second) :
    sameParameterKey (rawKey first) (rawKey second) = (placeOf second == placeOf first) := by
  have name {fields : Entries} (plain : IsPlainlyPlaced fields) :
      (fields.get? "name").getD (.string "") = .string (placeOf fields).1 := by
    rcases plain.name with absent | ⟨text, present⟩
    · rw [placeOf, absent]
      rfl
    · rw [placeOf, present]
      rfl
  have location {fields : Entries} (plain : IsPlainlyPlaced fields) :
      (fields.get? "in").getD (.string "") = .string (placeOf fields).2 := by
    obtain ⟨text, present⟩ := plain.location
    rw [placeOf, present]
    rfl
  rw [rawKey, rawKey, sameParameterKey, name plain, name plain', location plain, location plain']
  show ((placeOf first).1 == (placeOf second).1 && (placeOf first).2 == (placeOf second).2) = _
  rw [Bool.beq_comm, Bool.beq_comm (a := (placeOf first).2)]
  rfl

/-- Parameters that are plainly placed are overridden by what is read of them. -/
theorem isOverridden_eq_isShadowed {ofOperation : List Entries}
    (own : ∀ fields ∈ ofOperation, IsPlainlyPlaced fields) {fields : Entries}
    (plain : IsPlainlyPlaced fields) :
    isOverridden ofOperation fields = isShadowed ofOperation fields := by
  unfold isOverridden isShadowed
  induction ofOperation with
  | nil => rfl
  | cons first rest inductionHypothesis =>
    rw [List.any_cons, List.any_cons, sameParameterKey_of_isPlainlyPlaced plain
      (own first List.mem_cons_self),
      inductionHypothesis fun other member => own other (List.mem_cons_of_mem _ member)]

/-! ### Two ways to tell parameters apart -/

section

variable {ofPath ofOperation : List Entries} {shared own : List Parameter}
  (readShared : ofPath.mapM parameter = .ok shared)
  (readOwn : ofOperation.mapM parameter = .ok own)

include readOwn

theorem isShadowed_eq {fields : Entries} {read : Parameter} (made : parameter fields = .ok read) :
    read.isShadowed own = isShadowed ofOperation fields := by
  have others : own.any (·.place == read.place) = (own.map Parameter.place).any (· == read.place) :=
    by rw [List.any_map]; rfl
  rw [Parameter.isShadowed, others, map_place_of_mapM readOwn, List.any_map,
    place_of_parameter made]
  rfl

include readShared

/-- The parameters of a path that are not shadowed are those of the maps that are not. -/
theorem mapM_filter_isShadowed :
    (ofPath.filter (!isShadowed ofOperation ·)).mapM parameter =
      .ok (shared.filter (!Parameter.isShadowed own ·)) := by
  rw [mapM_eq_ok_iff]
  refine List.rel_filter ?_ ((mapM_eq_ok_iff _ _ _).1 readShared)
  intro fields read made
  show (!isShadowed ofOperation fields) = true ↔ (!read.isShadowed own) = true
  rw [isShadowed_eq readOwn made]

/-- What is read of the parameters that are not overridden are the parameters of the path that are
not shadowed, exactly if the overridden maps are the shadowed ones. -/
theorem mapM_filter_isOverridden_iff :
    (ofPath.filter (!isOverridden ofOperation ·)).mapM parameter =
        .ok (shared.filter (!Parameter.isShadowed own ·)) ↔
      ∀ fields ∈ ofPath, isOverridden ofOperation fields = isShadowed ofOperation fields := by
  constructor
  · intro same
    have each := (mapM_eq_ok_iff _ _ _).1 same
    have shadowed := (mapM_eq_ok_iff _ _ _).1 (mapM_filter_isShadowed readShared readOwn)
    -- What is kept is not shadowed, so that as many maps are kept either way.
    have kept : ∀ fields ∈ ofPath.filter (!isOverridden ofOperation ·),
        (!isShadowed ofOperation fields) = true := by
      intro fields member
      obtain ⟨read, among, made⟩ := Placement.exists_mem_of_forall₂ each member
      rw [← isShadowed_eq readOwn made]
      exact (List.mem_filter.1 among).2
    have sublist : (ofPath.filter (!isOverridden ofOperation ·)).Sublist
        (ofPath.filter (!isShadowed ofOperation ·)) := by
      rw [← List.filter_eq_self.2 kept, List.filter_filter]
      simp only [Bool.and_comm]
      rw [← List.filter_filter]
      exact List.filter_sublist
    have equal := sublist.eq_of_length (each.length_eq.trans shadowed.length_eq.symm)
    intro fields member
    have := congrArg (fields ∈ ·) equal
    simpa [List.mem_filter, member] using this
  · intro agree
    have maps : ofPath.filter (!isOverridden ofOperation ·) =
        ofPath.filter (!isShadowed ofOperation ·) :=
      List.filter_congr fun fields member => congrArg not (agree fields member)
    rw [maps]
    exact mapM_filter_isShadowed readShared readOwn

/-- What is read of the merged parameters are those of the path that are not shadowed, then the
own ones, exactly if the overridden maps are the shadowed ones. -/
theorem eq_filter_append_iff {whole : List Parameter}
    (made : (merged ofPath ofOperation).mapM parameter = .ok whole) :
    whole = shared.filter (!Parameter.isShadowed own ·) ++ own ↔
      ∀ fields ∈ ofPath, isOverridden ofOperation fields = isShadowed ofOperation fields := by
  obtain ⟨kept, second, rfl, front, back⟩ :=
    Placement.exists_append_of_forall₂ ((mapM_eq_ok_iff parameter _ _).1 made)
  have same : own = second :=
    Except.ok.inj (readOwn.symm.trans ((mapM_eq_ok_iff parameter _ _).2 back))
  have readKept := (mapM_eq_ok_iff parameter _ _).2 front
  rw [← mapM_filter_isOverridden_iff readShared readOwn, readKept, same,
    List.append_cancel_right_eq, Except.ok.injEq]

end

/-! ### Operations -/

theorem parameters_of_isReadFrom {entries : Entries} {swagger : Bool} {ofPath : List Entries}
    {fields : Entries} {read : Operation} (source : IsReadFrom entries swagger ofPath fields read) :
    ∃ ofOperation whole,
      dereferencedMaps (.map entries) (fields.get "parameters") = .ok ofOperation ∧
      (merged ofPath ofOperation).mapM parameter = .ok whole ∧
      read.parameters = if swagger then whole.filter (·.location != "body") else whole := by
  have made := source.made
  simp only [operation, bind_eq_ok_iff, pure, Except.pure, Except.ok.injEq] at made
  obtain ⟨⟨parameters, body⟩, parts, _, _, same⟩ := made
  simp only [parametersAndBody, bind_eq_ok_iff] at parts
  obtain ⟨ofOperation, own, together, merging, whole, readWhole, split⟩ := parts
  obtain ⟨_, rfl⟩ := (mergedParameters_eq_ok_iff _ _ _).1 merging
  refine ⟨ofOperation, whole, own, readWhole, ?_⟩
  have here : parameters = read.parameters := congrArg Operation.parameters same
  rw [← here]
  cases swagger with
  | true => exact (congrArg Prod.fst (Except.ok.inj split)).symm
  | false =>
    obtain ⟨_, _, same⟩ := (bind_eq_ok_iff _ _ _).1 split
    exact (congrArg Prod.fst (Except.ok.inj same)).symm

/-- The operations of a document are those that are read from the maps of a path and a verb. The
parameters of one are those of its path that it does not override, then its own. Let both be read
alone. Then these are the parameters of the path without those of which the operation has one of
the same name and place, then the operation's own, exactly if the overridden maps are those whose
name and place are read of one of the operation's; and they are if all names and places are plainly
written. -/
theorem parameters_of_document {entries : Entries} {version : String} {understood : Document}
    (reading : document entries version = .ok understood) (read : Operation) :
    (read ∈ understood.operations ↔
      ∃ ofPath fields, IsReadFrom entries (isSwagger version) ofPath fields read) ∧
    ∀ ofPath fields, IsReadFrom entries (isSwagger version) ofPath fields read →
      ∃ ofOperation whole,
        dereferencedMaps (.map entries) (fields.get "parameters") = .ok ofOperation ∧
        (merged ofPath ofOperation).mapM parameter = .ok whole ∧
        (read.parameters =
          if isSwagger version then whole.filter (·.location != "body") else whole) ∧
        ∀ shared own, ofPath.mapM parameter = .ok shared → ofOperation.mapM parameter = .ok own →
          (whole = shared.filter (!Parameter.isShadowed own ·) ++ own ↔
            ∀ fields ∈ ofPath,
              isOverridden ofOperation fields = isShadowed ofOperation fields) ∧
          ((∀ fields ∈ ofPath ++ ofOperation, IsPlainlyPlaced fields) →
            whole = shared.filter (!Parameter.isShadowed own ·) ++ own) := by
  refine ⟨mem_operations_iff reading read, fun ofPath fields source => ?_⟩
  obtain ⟨ofOperation, whole, followed, made, parameters⟩ := parameters_of_isReadFrom source
  refine ⟨ofOperation, whole, followed, made, parameters, fun shared own readShared readOwn => ?_⟩
  have agreement := eq_filter_append_iff readShared readOwn made
  refine ⟨agreement, fun plain => agreement.2 fun fields member => ?_⟩
  exact isOverridden_eq_isShadowed (fun other among => plain other (List.mem_append_right _ among))
    (plain fields (List.mem_append_left _ member))

/-- A decoded document with one operation, whose path has parameters too. -/
def oneOperation (ofPath ofOperation : List Entries) : Entries :=
  [(.string "openapi", .string "3.0.0"),
    (.string "paths", .map
      [(.string "/pets", .map
        [(.string "parameters", .list (ofPath.map .map)),
          (.string "get", .map [(.string "parameters", .list (ofOperation.map .map))])])])]

/-- A parameter of a name and a place. -/
def placedParameter (name location : String) : Entries :=
  [(.string "name", .string name), (.string "in", .string location)]

/-- Parameters of a path: one in the query, one of the same name in a header. -/
def limitParameters : List Entries :=
  [placedParameter "limit" "query", placedParameter "limit" "header"]

/-- The parameter in the query is overridden, the one in the header is not. -/
theorem parameters_of_document_limitParameters :
    ∃ understood read fields shared own,
      document (oneOperation limitParameters [placedParameter "limit" "query"]) "3.0.0" =
        .ok understood ∧
      understood.operations = [read] ∧
      IsReadFrom (oneOperation limitParameters [placedParameter "limit" "query"]) false
        limitParameters fields read ∧
      limitParameters.mapM parameter = .ok shared ∧
      [placedParameter "limit" "query"].mapM parameter = .ok own ∧
      read.parameters = shared.filter (!Parameter.isShadowed own ·) ++ own ∧
      read.parameters.map Parameter.place = [("limit", "header"), ("limit", "query")] := by
  obtain ⟨understood, read, fields, shared, own, reading, operations, source, written, readShared,
      readOwn, places⟩ :
      ∃ understood read fields shared own,
        document (oneOperation limitParameters [placedParameter "limit" "query"]) "3.0.0" =
          .ok understood ∧
        understood.operations = [read] ∧
        IsReadFrom (oneOperation limitParameters [placedParameter "limit" "query"]) false
          limitParameters fields read ∧
        dereferencedMaps (.map (oneOperation limitParameters [placedParameter "limit" "query"]))
          (fields.get "parameters") = .ok [placedParameter "limit" "query"] ∧
        limitParameters.mapM parameter = .ok shared ∧
        [placedParameter "limit" "query"].mapM parameter = .ok own ∧
        read.parameters.map Parameter.place = [("limit", "header"), ("limit", "query")] :=
    ⟨_, _, _, _, _, rfl, rfl, ⟨⟨_, _, _, rfl, List.mem_cons_self, ⟨⟨_, rfl, rfl⟩, rfl⟩,
      List.mem_cons_self, rfl⟩, rfl⟩, rfl, rfl, rfl, rfl⟩
  refine ⟨understood, read, fields, shared, own, reading, operations, source, readShared, readOwn,
    ?_, places⟩
  obtain ⟨ofOperation, whole, followed, _, parameters, both⟩ :=
    (parameters_of_document reading read).2 _ _ source
  obtain rfl := Except.ok.inj (written.symm.trans followed)
  rw [parameters]
  refine (both shared own readShared readOwn).2 fun one member => ?_
  have plain (location : String) : IsPlainlyPlaced (placedParameter "limit" location) :=
    ⟨Or.inr ⟨_, rfl⟩, ⟨_, rfl⟩⟩
  simp only [limitParameters, List.cons_append, List.nil_append, List.mem_cons, List.not_mem_nil,
    or_false] at member
  rcases member with rfl | rfl | rfl <;> exact plain _

/-- A parameter of a path that leaves its place out is read as one in the query, but it stands
beside the operation's own parameter of its name in the query. -/
theorem parameters_missing_place :
    ∃ understood read fields shared own,
      document (oneOperation [[(.string "name", .string "id")]] [placedParameter "id" "query"])
        "3.0.0" = .ok understood ∧
      understood.operations = [read] ∧
      IsReadFrom (oneOperation [[(.string "name", .string "id")]] [placedParameter "id" "query"])
        false [[(.string "name", .string "id")]] fields read ∧
      dereferencedMaps
        (.map (oneOperation [[(.string "name", .string "id")]] [placedParameter "id" "query"]))
        (fields.get "parameters") = .ok [placedParameter "id" "query"] ∧
      [[(.string "name", .string "id")]].mapM parameter = .ok shared ∧
      [placedParameter "id" "query"].mapM parameter = .ok own ∧
      read.parameters.map Parameter.place = [("id", "query"), ("id", "query")] ∧
      read.parameters ≠ shared.filter (!Parameter.isShadowed own ·) ++ own := by
  refine ⟨_, _, _, _, _, rfl, rfl, ⟨⟨_, _, _, rfl, List.mem_cons_self, ⟨⟨_, rfl, rfl⟩, rfl⟩,
      List.mem_cons_self, rfl⟩, rfl⟩, rfl, rfl, rfl, rfl, ?_⟩
  intro same
  exact absurd (congrArg List.length same) (by decide)

end Extraction

end ClientModel
