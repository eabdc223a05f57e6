/-
This file says which parameters a call passes as arguments: those with a name, in the path, in the
query or in a header, one argument for each and in their order. An operation of a document has the
parameters that its maps write, and a parameter of the older generation that is taken out as the
body would not be passed either. The main statement puts both together: it names the maps whose
parameters are passed, and what each argument takes from its map.
-/

import ClientModel.Proofs.Rendition

namespace ClientModel

/-! ### Parameters that are passed -/

theorem ArgumentLocation.ofName?_eq_some_iff (name : String) (location : ArgumentLocation) :
    ofName? name = some location ↔ location.name = name := by
  constructor
  · intro found
    simpa using List.find?_some found
  · rintro rfl
    cases location <;> rfl

/-- A call passes the parameter: it has a name, and its place is one of arguments. -/
def Parameter.isPassed (parameter : Parameter) : Bool :=
  !Text.isBlankText parameter.name && (ArgumentLocation.ofName? parameter.location).isSome

/-- The argument that passes a parameter. A part of the path is always required. -/
structure Parameter.IsPassedAs (parameter : Parameter) (argument : Argument) : Prop where
  name : argument.name = parameter.name
  identifier : argument.identifier = Naming.propertyIdentifier parameter.name
  location : argument.location.name = parameter.location
  required : argument.required = (parameter.required || argument.location == .path)
  type : (resolve parameter.schema).result = .ok argument.type
  description : argument.description = parameter.description

/-- A body is passed in another way. -/
theorem Parameter.filter_isPassed_filter_body (parameters : List Parameter) :
    (parameters.filter (·.location != "body")).filter isPassed = parameters.filter isPassed := by
  rw [List.filter_filter]
  refine List.filter_congr fun parameter _ => ?_
  cases body : parameter.location != "body" with
  | true => rw [Bool.and_true]
  | false =>
    have location : parameter.location = "body" := by simpa using body
    have missing : ArgumentLocation.ofName? "body" = none := by decide
    rw [isPassed, location, missing]
    simp

namespace Assembly

theorem isPassedAs_iff {parameter : Parameter} {location : ArgumentLocation}
    (found : ArgumentLocation.ofName? parameter.location = some location) (argument : Argument) :
    parameter.IsPassedAs argument ↔ ∃ type, (resolve parameter.schema).result = .ok type ∧
      argumentOf parameter location (Naming.propertyIdentifier parameter.name) type = argument := by
  have named := (ArgumentLocation.ofName?_eq_some_iff _ _).1 found
  constructor
  · rintro ⟨name, identifier, placed, required, type, description⟩
    obtain rfl : argument.location = location :=
      Option.some.inj (((ArgumentLocation.ofName?_eq_some_iff _ _).2 placed).symm.trans found)
    refine ⟨argument.type, type, ?_⟩
    rw [argumentOf, ← name, ← required, ← description, name, ← identifier, ← name]
  · rintro ⟨type, resolved, rfl⟩
    exact ⟨rfl, rfl, named, rfl, resolved, rfl⟩

/-- The arguments of a call correspond to the parameters that are passed, one by one. -/
theorem result_argumentsOf_iff (operationId : String) (parameters : List Parameter)
    (arguments : List Argument) :
    (argumentsOf operationId parameters).result = .ok arguments ↔
      List.Forall₂ Parameter.IsPassedAs (parameters.filter Parameter.isPassed) arguments := by
  induction parameters generalizing arguments with
  | nil =>
    rw [argumentsOf, result_pure, List.filter_nil, List.forall₂_nil_left_iff, Except.ok.injEq,
      eq_comm]
  | cons parameter rest inductionHypothesis =>
    unfold argumentsOf
    split
    · next blank =>
      rw [List.filter_cons_of_neg (by simp [Parameter.isPassed, blank]), ← inductionHypothesis]
      rfl
    · next filled =>
      split
      · next missing =>
        rw [List.filter_cons_of_neg (by simp [Parameter.isPassed, missing]), ← inductionHypothesis,
          result_bind, result_leaveAll]
        rfl
      · next location found =>
        rw [List.filter_cons_of_pos (by simp [Parameter.isPassed, filled, found]),
          List.forall₂_cons_left_iff]
        simp only [result_bind_eq_ok_iff, result_askProperty, result_pure, Except.ok.injEq,
          inductionHypothesis, isPassedAs_iff found]
        constructor
        · rintro ⟨_, rfl, type, resolved, others, passed, rfl⟩
          exact ⟨_, others, ⟨type, resolved, rfl⟩, passed, rfl⟩
        · rintro ⟨_, others, ⟨type, resolved, rfl⟩, passed, rfl⟩
          exact ⟨_, rfl, type, resolved, others, passed, rfl⟩

end Assembly

namespace Extraction

/-! ### What documents write of a parameter -/

/-- The place of a parameter, which is the query where the parameter leaves it out. -/
def placeValue (fields : Entries) : Value := (fields.get? "in").getD (.string "query")

/-- The place of a parameter is one of arguments. -/
def isPlaced (fields : Entries) : Bool :=
  ((placeValue fields).string?.bind ArgumentLocation.ofName?).isSome

/-- A parameter has a name, which is neither null nor blank. -/
def isNamed (fields : Entries) : Bool :=
  !(fields.get "name").isNull && !Text.isBlankText (fields.get "name").text

/-- A parameter writes null as its name. -/
def isNamedNull (fields : Entries) : Bool := (fields.get? "name").any Value.isNull

/-- What an argument takes from the map of its parameter. -/
structure IsArgumentOf (fields : Entries) (argument : Argument) : Prop where
  name : argument.name = (fields.get "name").text
  identifier : argument.identifier = Naming.propertyIdentifier argument.name
  location : (placeValue fields).string? = some argument.location.name
  required : argument.required = true ↔
    (fields.get "required").isTrue = true ∨ argument.location = .path
  type : argument.type = (parameterSchema fields argument.location.name).schemaType
  description : argument.description = (fields.get "description").string?

/-- Null is no name. -/
theorem isNamed_of_isNamedNull {fields : Entries} (null : isNamedNull fields = true) :
    isNamed fields = false := by
  unfold isNamedNull at null
  unfold isNamed Entries.get
  cases present : fields.get? "name" with
  | none =>
    rw [present] at null
    cases null
  | some name =>
    rw [present, Option.any_some] at null
    rw [Option.getD_some, null]
    rfl

theorem isUnmistakable_name (location : ArgumentLocation) :
    isUnmistakable location.name = true := by
  cases location <;> decide

section

variable {fields : Entries} (json : Value.areAllJson fields = true)

include json

theorem isJson_placeValue : (placeValue fields).isJson = true := by
  unfold placeValue
  cases found : fields.get? "in" with
  | none => rfl
  | some place => exact Entries.isJson_of_get? json found

theorem ofName?_placeOf_eq_some_iff (location : ArgumentLocation) :
    ArgumentLocation.ofName? (placeOf fields).2 = some location ↔
      (placeValue fields).string? = some location.name := by
  rw [ArgumentLocation.ofName?_eq_some_iff, eq_comm]
  exact text_eq_iff (isJson_placeValue json) (isUnmistakable_name location)

theorem isSome_ofName?_placeOf :
    (ArgumentLocation.ofName? (placeOf fields).2).isSome = isPlaced fields := by
  rw [isPlaced, Bool.eq_iff_iff, Option.isSome_iff_exists, Option.isSome_iff_exists]
  refine exists_congr fun location => ?_
  rw [ofName?_placeOf_eq_some_iff json, Option.bind_eq_some_iff]
  constructor
  · exact fun written => ⟨_, written, (ArgumentLocation.ofName?_eq_some_iff _ _).2 rfl⟩
  · rintro ⟨name, written, found⟩
    rw [written, (ArgumentLocation.ofName?_eq_some_iff _ _).1 found]

/-- A parameter is passed if its place is one of arguments and it has a name or writes null as
one. -/
theorem isPassed_parameterOf :
    (parameterOf fields).isPassed =
      ((isNamed fields || isNamedNull fields) && isPlaced fields) := by
  have blank : (!Text.isBlankText (placeOf fields).1) = (isNamed fields || isNamedNull fields) := by
    unfold placeOf isNamed isNamedNull Entries.get
    cases fields.get? "name" with
    | none => rfl
    | some name =>
      rw [Option.getD_some, Option.getD_some, Option.any_some]
      cases null : name.isNull with
      | false => rw [Bool.not_false, Bool.true_and, Bool.or_false]
      | true =>
        obtain rfl := eq_null_of_isNull null
        show (!Text.isBlankText Value.null.text) = true
        decide
  rw [Parameter.isPassed, ← isSome_ofName?_placeOf json, ← blank]
  rfl

theorem isArgumentOf_of_isPassedAs {argument : Argument}
    (passed : (parameterOf fields).isPassed = true)
    (passedAs : (parameterOf fields).IsPassedAs argument) : IsArgumentOf fields argument := by
  have name : (placeOf fields).1 = (fields.get "name").text := by
    rw [Parameter.isPassed, Bool.and_eq_true] at passed
    unfold placeOf Entries.get
    cases present : fields.get? "name" with
    | some name => rfl
    | none =>
      have blank : (placeOf fields).1 = "" := by
        rw [placeOf, present]
        rfl
      have filled := passed.1
      rw [parameterOf, blank] at filled
      cases filled
  have location : (placeOf fields).2 = argument.location.name := passedAs.location.symm
  refine ⟨passedAs.name.trans name, ?_, ?_, ?_, ?_, passedAs.description⟩
  · rw [passedAs.name]
    exact passedAs.identifier
  · rw [← ofName?_placeOf_eq_some_iff json, ArgumentLocation.ofName?_eq_some_iff]
    exact passedAs.location
  · rw [passedAs.required, Bool.or_eq_true, beq_iff_eq]
    rfl
  · have resolved := passedAs.type
    rw [parameterOf, result_resolve_of_isJson (isJson_parameterSchema json _), location] at resolved
    exact (Except.ok.inj resolved).symm

end

/-! ### Arguments of operations -/

/-- The maps of parameters that are passed become the arguments of a call, one by one. -/
theorem forall₂_isArgumentOf {maps : List Entries} (json : AreJsonMaps maps)
    {arguments : List Argument}
    (passed : List.Forall₂ Parameter.IsPassedAs
      ((maps.map parameterOf).filter Parameter.isPassed) arguments) :
    List.Forall₂ IsArgumentOf
      (maps.filter fun fields => (isNamed fields || isNamedNull fields) && isPlaced fields)
      arguments := by
  have kept : maps.filter (fun fields => (parameterOf fields).isPassed) =
      maps.filter fun fields => (isNamed fields || isNamedNull fields) && isPlaced fields :=
    List.filter_congr fun fields member => isPassed_parameterOf (json fields member)
  rw [List.filter_map, List.forall₂_map_left_iff] at passed
  rw [← kept]
  have each : ∀ fields ∈ maps.filter (fun fields => (parameterOf fields).isPassed),
      Value.areAllJson fields = true ∧ (parameterOf fields).isPassed = true := by
    intro fields member
    obtain ⟨among, here⟩ := List.mem_filter.1 member
    exact ⟨json fields among, here⟩
  refine ((List.forall₂_and_left _ _).2 ⟨each, passed⟩).imp fun fields argument both => ?_
  exact isArgumentOf_of_isPassedAs both.1.1 both.1.2 both.2

/-- Leaving out the names that are null leaves no argument out exactly if there are none. -/
theorem forall₂_isNamed_iff {maps : List Entries} {arguments : List Argument}
    (passed : List.Forall₂ IsArgumentOf
      (maps.filter fun fields => (isNamed fields || isNamedNull fields) && isPlaced fields)
      arguments) :
    List.Forall₂ IsArgumentOf (maps.filter fun fields => isNamed fields && isPlaced fields)
        arguments ↔
      ∀ fields ∈ maps, isPlaced fields = true → isNamedNull fields = false := by
  constructor
  · intro named
    have sublist : (maps.filter fun fields => isNamed fields && isPlaced fields).Sublist
        (maps.filter fun fields => (isNamed fields || isNamedNull fields) && isPlaced fields) :=
      List.monotone_filter_right _ fun fields both => by
        rw [Bool.and_eq_true] at both
        rw [both.1, both.2]
        rfl
    have same := sublist.eq_of_length (named.length_eq.trans passed.length_eq.symm)
    intro fields member placed
    by_contra null
    rw [Bool.not_eq_false] at null
    have among : fields ∈ maps.filter fun fields => isNamed fields && isPlaced fields := by
      rw [same, List.mem_filter, null, placed]
      exact ⟨member, Bool.and_true _ ▸ Bool.or_true _⟩
    have here := (List.mem_filter.1 among).2
    rw [isNamed_of_isNamedNull null] at here
    cases here
  · intro none
    have same : (maps.filter fun fields => isNamed fields && isPlaced fields) =
        maps.filter fun fields => (isNamed fields || isNamedNull fields) && isPlaced fields := by
      refine List.filter_congr fun fields member => ?_
      cases placed : isPlaced fields with
      | false => rw [Bool.and_false, Bool.and_false]
      | true => rw [none fields member placed, Bool.or_false]
    rw [same]
    exact passed

/-- Every operation of a document over JSON values becomes a call. Its arguments correspond, one by
one and in their order, to those merged maps of parameters whose place is one of arguments and that
have a name or write null as one; each takes its name, its place and its type from its map. The
maps that have a name are all of them exactly if no such map writes null. -/
theorem arguments_of_document {entries : Entries} (json : Value.areAllJson entries = true)
    {version : String} {understood : Document}
    (reading : document entries version = .ok understood) {read : Operation}
    (member : read ∈ understood.operations) :
    ∃ call, (Assembly.callOf read).result = .ok call ∧
      (∃ ofPath fields, IsReadFrom entries (isSwagger version) ofPath fields read) ∧
      ∀ ofPath fields, IsReadFrom entries (isSwagger version) ofPath fields read →
        ∃ ofOperation,
          dereferencedMaps (.map entries) (fields.get "parameters") = .ok ofOperation ∧
          List.Forall₂ IsArgumentOf ((merged ofPath ofOperation).filter fun parameter =>
            (isNamed parameter || isNamedNull parameter) && isPlaced parameter) call.arguments ∧
          (List.Forall₂ IsArgumentOf ((merged ofPath ofOperation).filter fun parameter =>
              isNamed parameter && isPlaced parameter) call.arguments ↔
            ∀ parameter ∈ merged ofPath ofOperation, isPlaced parameter = true →
              isNamedNull parameter = false) := by
  have readJson : read.isJson = true :=
    (ends_operations json (isSwagger version)).of_ok (operations_of_document reading) read member
  obtain ⟨call, made⟩ := Assembly.succeeds_callOf readJson
  refine ⟨call, made, (mem_operations_iff reading read).1 member, fun ofPath fields source => ?_⟩
  obtain ⟨ofOperation, whole, followed, readWhole, parameters⟩ := parameters_of_isReadFrom source
  obtain ⟨fieldsJson, shared, _⟩ := areAllJson_of_isReadFrom json source
  have root : (Value.map entries).isJson = true := json
  have own : AreJsonMaps ofOperation :=
    (ends_dereferencedMaps root (Entries.isJson_get fieldsJson "parameters")).of_ok followed
  have mergedJson : AreJsonMaps (merged ofPath ofOperation) := by
    intro parameter among
    rcases List.mem_append.1 among with ofPath | ofOperation
    · exact shared parameter (List.mem_filter.1 ofPath).1
    · exact own parameter ofOperation
  obtain rfl := Except.ok.inj ((mapM_parameter_of_isJson mergedJson).symm.trans readWhole)
  obtain ⟨arguments, _, _, passed, _, _, rfl⟩ := (Assembly.result_callOf_eq_ok_iff read call).1 made
  have filtered : read.parameters.filter Parameter.isPassed =
      ((merged ofPath ofOperation).map parameterOf).filter Parameter.isPassed := by
    rw [parameters]
    split
    · exact Parameter.filter_isPassed_filter_body _
    · rfl
  have each := (Assembly.result_argumentsOf_iff _ _ _).1 passed
  rw [filtered] at each
  have corresponding := forall₂_isArgumentOf mergedJson each
  exact ⟨ofOperation, followed, corresponding, forall₂_isNamed_iff corresponding⟩

/-- Parameters of an operation: one leaves its place out, one leaves its name out, one has a blank
name, one is sent as a cookie, and one is a part of the path. -/
def variedParameters : List Entries :=
  [[(.string "name", .string "limit"), (.string "type", .string "integer")],
    [(.string "in", .string "query")], placedParameter " " "header",
    placedParameter "session" "cookie", placedParameter "id" "path"]

/-- A decoded document whose operation has parameters of many kinds, and a path with another. -/
def variedEntries : Entries :=
  oneOperation [placedParameter "X-Trace" "header"] variedParameters

theorem arguments_of_document_variedEntries :
    ∃ understood read call ofPath fields ofOperation,
      Value.areAllJson variedEntries = true ∧
      document variedEntries "3.0.0" = .ok understood ∧ read ∈ understood.operations ∧
      (Assembly.callOf read).result = .ok call ∧
      IsReadFrom variedEntries false ofPath fields read ∧
      dereferencedMaps (.map variedEntries) (fields.get "parameters") = .ok ofOperation ∧
      (merged ofPath ofOperation).filter (fun parameter =>
          isNamed parameter && isPlaced parameter) =
        [placedParameter "X-Trace" "header", variedParameters.head (by decide),
          placedParameter "id" "path"] ∧
      List.Forall₂ IsArgumentOf
        [placedParameter "X-Trace" "header", variedParameters.head (by decide),
          placedParameter "id" "path"] call.arguments := by
  have json : Value.areAllJson variedEntries = true := by decide
  obtain ⟨understood, read, fields, reading, operations, source, followed⟩ :
      ∃ understood read fields, document variedEntries "3.0.0" = .ok understood ∧
        understood.operations = [read] ∧
        IsReadFrom variedEntries false [placedParameter "X-Trace" "header"] fields read ∧
        dereferencedMaps (.map variedEntries) (fields.get "parameters") = .ok variedParameters :=
    ⟨_, _, _, rfl, rfl, ⟨⟨_, _, _, rfl, List.mem_cons_self, ⟨⟨_, rfl, rfl⟩, rfl⟩,
      List.mem_cons_self, rfl⟩, rfl⟩, rfl⟩
  have member : read ∈ understood.operations := operations ▸ List.mem_singleton_self read
  obtain ⟨call, made, _, each⟩ := arguments_of_document json reading member
  obtain ⟨ofOperation, again, _, exact⟩ := each _ _ source
  obtain rfl := Except.ok.inj (followed.symm.trans again)
  refine ⟨understood, read, call, _, fields, _, json, reading, member, made, source, followed, rfl,
    exact.2 ?_⟩
  decide

/-- A parameter that writes null as its name has none, but the call passes an argument for it. -/
theorem argument_of_null_name :
    ∃ understood read call fields,
      document (oneOperation [] [[(.string "name", .null), (.string "in", .string "query")]])
        "3.0.0" = .ok understood ∧
      understood.operations = [read] ∧ (Assembly.callOf read).result = .ok call ∧
      IsReadFrom (oneOperation [] [[(.string "name", .null), (.string "in", .string "query")]])
        false [] fields read ∧
      dereferencedMaps
        (.map (oneOperation [] [[(.string "name", .null), (.string "in", .string "query")]]))
        (fields.get "parameters") =
          .ok [[(.string "name", .null), (.string "in", .string "query")]] ∧
      call.arguments.map Argument.name = ["None"] ∧
      ¬List.Forall₂ IsArgumentOf
        ((merged [] [[(.string "name", .null), (.string "in", .string "query")]]).filter
          fun parameter => isNamed parameter && isPlaced parameter) call.arguments := by
  refine ⟨_, _, _, _, rfl, rfl, rfl, ⟨⟨_, _, _, rfl, List.mem_cons_self, ⟨⟨_, rfl, rfl⟩, rfl⟩,
      List.mem_cons_self, rfl⟩, rfl⟩, rfl, rfl, ?_⟩
  intro same
  exact absurd same.length_eq (by decide)

end Extraction

end ClientModel
