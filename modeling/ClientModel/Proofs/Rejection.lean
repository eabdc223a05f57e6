/-
This file says why documents over JSON values are rejected. Beside the faults that are reported as
such, a server of the newer generation may be described by something else than a text, and the
name or the place of a parameter may be a collection. The main statement is the exact condition of
both: the servers are read first, and parameters are compared where the reading of the operations
comes to them.
-/

import ClientModel.Proofs.JsonDocument
import ClientModel.Proofs.Operations

namespace ClientModel.Extraction

/-! ### Servers -/

/-- A server that says nothing of itself, or a text. -/
def IsDescribed (fields : Entries) : Prop :=
  fields.get "description" = .null ∨ ∃ text, fields.get "description" = .string text

/-- The maps in the list of servers. -/
def serverMaps (entries : Entries) : List Entries :=
  (entries.get "servers").itemsOrEmpty.filterMap Value.entries?

/-- A document of the newer generation lists a server that is described by something else. -/
def HasUndescribedServer (entries : Entries) (version : String) : Prop :=
  isSwagger version = false ∧ ∃ fields ∈ serverMaps entries, ¬ IsDescribed fields

theorem server_of_isDescribed {fields : Entries} (described : IsDescribed fields) :
    ∃ read, server fields = .ok read := by
  unfold server
  rcases described with absent | ⟨text, present⟩
  · rw [absent]
    exact ⟨_, rfl⟩
  · rw [present]
    exact ⟨_, rfl⟩

theorem server_of_not_isDescribed {fields : Entries} (json : Value.areAllJson fields = true)
    (other : ¬ IsDescribed fields) : server fields = .error (.serverDescription .text) := by
  have description := Entries.isJson_get json "description"
  unfold server
  dsimp only
  split
  · next absent => exact absurd (Or.inl absent) other
  · next text present => exact absurd (Or.inr ⟨text, present⟩) other
  · next bytes present =>
    rw [present] at description
    exact absurd description Bool.false_ne_true
  · rfl

section

variable {entries : Entries} (json : Value.areAllJson entries = true)

include json

theorem areJsonMaps_serverMaps : AreJsonMaps (serverMaps entries) :=
  areJsonMaps_filterMap_entries?
    ((Value.areJson_iff _).1 (Value.areJson_itemsOrEmpty (Entries.isJson_get json "servers")))

theorem ends_servers :
    Ends (fun _ => True) (· = .serverDescription .text) (servers entries) := by
  have each (fields : Entries) (member : fields ∈ serverMaps entries) :
      Ends (fun _ => True) (· = .serverDescription .text) (server fields) := by
    by_cases described : IsDescribed fields
    · obtain ⟨read, passed⟩ := server_of_isDescribed described
      rw [passed]
      trivial
    · rw [server_of_not_isDescribed (areJsonMaps_serverMaps json fields member) described]
      rfl
  exact (Ends.mapM each).mono (fun _ _ => trivial) fun _ => id

/-- Only a server that is described by something else than a text makes the servers fail. -/
theorem servers_eq_error_iff (fault : ExtractionError) :
    servers entries = .error fault ↔
      fault = .serverDescription .text ∧ ∃ fields ∈ serverMaps entries, ¬ IsDescribed fields := by
  constructor
  · intro failure
    obtain ⟨fields, arrives, fails⟩ := (mapM_eq_error_iff _ _ _).1 failure
    refine ⟨(ends_servers json).of_error failure, fields, arrives.mem, fun described => ?_⟩
    obtain ⟨read, passed⟩ := server_of_isDescribed described
    cases passed.symm.trans fails
  · rintro ⟨rfl, fields, member, other⟩
    cases read : servers entries with
    | ok products =>
      obtain ⟨_, _, passed⟩ :=
        Placement.exists_mem_of_forall₂ ((mapM_eq_ok_iff _ _ _).1 read) member
      have fails := server_of_not_isDescribed (areJsonMaps_serverMaps json fields member) other
      cases passed.symm.trans fails
    | error fault => rw [(ends_servers json).of_error read]

end

/-! ### Parameters that cannot be told apart -/

theorem not_isMalformed_incomparable (kind : String) :
    ¬ IsMalformed (.incomparable kind) := by
  rintro ⟨_, ⟨⟩⟩

section

variable {root : Value} (json : root.isJson = true) (swagger : Bool) (defaults : MediaDefaults)

include json

/-- The parameters of an operation cannot be told apart where they are merged, and nowhere else is
this the fault. -/
theorem parametersAndBody_eq_incomparable_iff {ofPath : List Entries} (shared : AreJsonMaps ofPath)
    {fields : Entries} (here : Value.areAllJson fields = true) (kind : String) :
    parametersAndBody root swagger defaults ofPath fields = .error (.incomparable kind) ↔
      ∃ ofOperation, dereferencedMaps root (fields.get "parameters") = .ok ofOperation ∧
        (ofOperation ++ ofPath).findSome? incomparableKey? = some kind := by
  have followed := ends_dereferencedMaps json (Entries.isJson_get here "parameters")
  constructor
  · intro failure
    simp only [parametersAndBody, bind_eq_error_iff] at failure
    rcases failure with fails | ⟨ofOperation, own, fails | ⟨whole, merging, fails | ⟨_, _, fails⟩⟩⟩
    · exact absurd (followed.of_error fails) (not_isMalformed_incomparable kind)
    · obtain ⟨_, same, found⟩ := (mergedParameters_eq_error_iff _ _ _).1 fails
      cases same
      exact ⟨ofOperation, own, found⟩
    · have maps := (ends_mergedParameters shared (followed.of_ok own)).of_ok merging
      exact (Ends.mapM fun one member => ends_parameter (maps one member)).of_error fails |>.elim
    · have body := ends_requestBody json (Entries.isJson_get here "requestBody")
      cases swagger with
      | true => cases fails
      | false =>
        rcases (bind_eq_error_iff _ _ _).1 fails with fails | ⟨_, _, impossible⟩
        · exact absurd (body.of_error fails) (not_isMalformed_incomparable kind)
        · cases impossible
  · rintro ⟨ofOperation, own, found⟩
    have fails := (mergedParameters_eq_error_iff ofPath ofOperation _).2 ⟨kind, rfl, found⟩
    rw [parametersAndBody, own]
    simp only [bind, Except.bind, fails]

theorem operation_eq_incomparable_iff (path : String) {ofPath : List Entries}
    (shared : AreJsonMaps ofPath) (verb : Verb) {fields : Entries}
    (here : Value.areAllJson fields = true) (kind : String) :
    operation root swagger defaults path ofPath verb fields = .error (.incomparable kind) ↔
      ∃ ofOperation, dereferencedMaps root (fields.get "parameters") = .ok ofOperation ∧
        (ofOperation ++ ofPath).findSome? incomparableKey? = some kind := by
  rw [← parametersAndBody_eq_incomparable_iff json swagger defaults shared here kind]
  constructor
  · intro failure
    have responses := ends_responses
      (fun status _ json => ends_responseReader swagger defaults fields status json) json
      (Entries.isJson_get here "responses")
    simp only [operation, bind_eq_error_iff] at failure
    rcases failure with fails | ⟨_, _, fails | ⟨_, _, impossible⟩⟩
    · exact fails
    · exact absurd (responses.of_error fails) (not_isMalformed_incomparable kind)
    · cases impossible
  · intro fails
    rw [operation, fails]
    rfl

theorem areJson_of_isPathItem {entry : Scalar × Value} (here : entry.2.isJson = true)
    {fields : Entries} {ofPath : List Entries} (item : IsPathItem root entry fields ofPath) :
    AreJsonMaps ofPath ∧ ∀ found ∈ declaredOperations fields, Value.areAllJson found.2 = true := by
  obtain ⟨⟨value, followed, present⟩, shared⟩ := item
  have fieldsJson := Value.areAllJson_of_entries? ((ends_dereferenced json here).of_ok followed)
    present
  have parameters := ends_dereferencedMaps json (Entries.isJson_get fieldsJson "parameters")
  refine ⟨parameters.of_ok shared, fun found member => ?_⟩
  obtain ⟨verb, _, declared⟩ := List.mem_filterMap.1 member
  obtain ⟨own, present, rfl⟩ := Option.map_eq_some_iff.1 declared
  exact Value.areAllJson_of_entries? (Entries.isJson_get fieldsJson _) present

/-- The operations of a path fail for that at one of them, with the parameters that its path and
it have. -/
theorem operationsOfPath_eq_incomparable_iff {entry : Scalar × Value}
    (here : entry.2.isJson = true) (kind : String) :
    operationsOfPath root swagger defaults entry = .error (.incomparable kind) ↔
      ∃ pathFields ofPath found ofOperation, IsPathItem root entry pathFields ofPath ∧
        Arrives (fun found : Verb × Entries =>
          operation root swagger defaults entry.1.text ofPath found.1 found.2)
          (declaredOperations pathFields) found ∧
        dereferencedMaps root (found.2.get "parameters") = .ok ofOperation ∧
        (ofOperation ++ ofPath).findSome? incomparableKey? = some kind := by
  have item := ends_dereferenced json here
  constructor
  · intro failure
    have unfolded := failure
    simp only [operationsOfPath, bind_eq_error_iff] at unfolded
    rcases unfolded with fails | ⟨value, followed, unfolded⟩
    · exact absurd (item.of_error fails) (not_isMalformed_incomparable kind)
    · split at unfolded
      · next fields present =>
        have fieldsJson := Value.areAllJson_of_entries? (item.of_ok followed) present
        have parameters := ends_dereferencedMaps json (Entries.isJson_get fieldsJson "parameters")
        rcases (bind_eq_error_iff _ _ _).1 unfolded with fails | ⟨ofPath, shared, fails⟩
        · exact absurd (parameters.of_error fails) (not_isMalformed_incomparable kind)
        · have pathItem : IsPathItem root entry fields ofPath :=
            ⟨⟨value, followed, present⟩, shared⟩
          have maps := areJson_of_isPathItem json here pathItem
          obtain ⟨found, arrives, fails⟩ := (mapM_eq_error_iff _ _ _).1 fails
          obtain ⟨ofOperation, own, first⟩ := (operation_eq_incomparable_iff json swagger defaults _
            maps.1 _ (maps.2 found arrives.mem) kind).1 fails
          exact ⟨fields, ofPath, found, ofOperation, pathItem, arrives, own, first⟩
      · cases unfolded
  · rintro ⟨pathFields, ofPath, found, ofOperation, pathItem, arrives, own, first⟩
    have maps := areJson_of_isPathItem json here pathItem
    rw [operationsOfPath_of_isPathItem root swagger defaults pathItem, mapM_eq_error_iff]
    exact ⟨found, arrives, (operation_eq_incomparable_iff json swagger defaults _ maps.1 _
      (maps.2 found arrives.mem) kind).2 ⟨ofOperation, own, first⟩⟩

end

/-- The reading of the operations of a document comes to merging these parameters: those of a path
and of one of its operations, with everything in front of them read. -/
def ComesToMerge (entries : Entries) (swagger : Bool) (ofPath ofOperation : List Entries) : Prop :=
  ∃ items entry pathFields found, (entries.get "paths").entries? = some items ∧
    Arrives (operationsOfPath (.map entries) swagger (mediaDefaults entries)) items entry ∧
    IsPathItem (.map entries) entry pathFields ofPath ∧
    Arrives (fun found : Verb × Entries => operation (.map entries) swagger
      (mediaDefaults entries) entry.1.text ofPath found.1 found.2)
      (declaredOperations pathFields) found ∧
    dereferencedMaps (.map entries) (found.2.get "parameters") = .ok ofOperation

section

variable {entries : Entries} (json : Value.areAllJson entries = true)

include json

theorem operations_eq_incomparable_iff (swagger : Bool) (kind : String) :
    operations entries swagger = .error (.incomparable kind) ↔
      ∃ ofPath ofOperation, ComesToMerge entries swagger ofPath ofOperation ∧
        (ofOperation ++ ofPath).findSome? incomparableKey? = some kind := by
  have whole : (Value.map entries).isJson = true := json
  have paths := Entries.isJson_get json "paths"
  unfold operations
  dsimp only
  split
  · next absent =>
    refine iff_of_false nofun ?_
    rintro ⟨_, _, ⟨items, _, _, _, present, _⟩, _⟩
    cases (entries?_of_isNull absent).symm.trans present
  · split
    · next items present =>
      have each := (Value.areAllJson_iff _).1 (Value.areAllJson_of_entries? paths present)
      simp only [bind_eq_error_iff, mapM_eq_error_iff]
      constructor
      · rintro (⟨entry, arrives, fails⟩ | ⟨_, _, impossible⟩)
        · obtain ⟨pathFields, ofPath, found, ofOperation, item, there, own, first⟩ :=
            (operationsOfPath_eq_incomparable_iff whole swagger _ (each entry arrives.mem).2 kind).1
              fails
          exact ⟨ofPath, ofOperation, ⟨items, entry, pathFields, found, present, arrives, item,
            there, own⟩, first⟩
        · cases impossible
      · rintro ⟨ofPath, ofOperation, ⟨others, entry, pathFields, found, same, arrives, item, there,
          own⟩, first⟩
        obtain rfl := Option.some.inj (present.symm.trans same)
        exact Or.inl ⟨entry, arrives, (operationsOfPath_eq_incomparable_iff whole swagger _
          (each entry arrives.mem).2 kind).2
          ⟨pathFields, ofPath, found, ofOperation, item, there, own, first⟩⟩
    · next absent =>
      refine iff_of_false nofun ?_
      rintro ⟨_, _, ⟨items, _, _, _, present, _⟩, _⟩
      cases absent.symm.trans present

end

/-! ### Documents -/

/-- The servers of a document of either generation. -/
def serversOf (entries : Entries) (version : String) : Except ExtractionError (List Server) :=
  if isSwagger version then pure (swaggerServers entries) else servers entries

theorem document_eq (entries : Entries) (version : String) :
    document entries version = (do
      let servers ← serversOf entries version
      let schemas ← schemas entries (isSwagger version)
      let operations ← operations entries (isSwagger version)
      pure { version, info := info entries, servers, schemas, operations }) := by
  unfold document serversOf
  dsimp only
  split <;> rfl

section

variable {entries : Entries} (json : Value.areAllJson entries = true)

include json

theorem serversOf_eq_error_iff (version : String) (fault : ExtractionError) :
    serversOf entries version = .error fault ↔
      fault = .serverDescription .text ∧ HasUndescribedServer entries version := by
  unfold serversOf HasUndescribedServer
  split
  · next older => exact iff_of_false nofun fun condition => by simp [older] at condition
  · next newer => rw [servers_eq_error_iff json]; simp [newer]

/-- A document fails as its servers do, else as its operations do. -/
theorem document_eq_error_iff (version : String) (fault : ExtractionError) :
    document entries version = .error fault ↔
      (fault = .serverDescription .text ∧ HasUndescribedServer entries version) ∨
        ¬ HasUndescribedServer entries version ∧
          operations entries (isSwagger version) = .error fault := by
  obtain ⟨read, schemas, _⟩ := (ends_schemas json (isSwagger version)).exists_ok
  rw [document_eq, bind_eq_error_iff, serversOf_eq_error_iff json]
  have others (servers : List Server) : (do
      let schemas ← Extraction.schemas entries (isSwagger version)
      let operations ← operations entries (isSwagger version)
      pure { version, info := info entries, servers, schemas, operations } :
        Except ExtractionError Document) = .error fault ↔
      operations entries (isSwagger version) = .error fault := by
    rw [schemas]
    cases operations entries (isSwagger version) <;> simp [bind, Except.bind, pure, Except.pure]
  simp only [others]
  refine or_congr_right ⟨?_, ?_⟩
  · rintro ⟨servers, read, fails⟩
    refine ⟨fun undescribed => ?_, fails⟩
    cases read.symm.trans ((serversOf_eq_error_iff json version _).2 ⟨rfl, undescribed⟩)
  · rintro ⟨described, fails⟩
    cases read : serversOf entries version with
    | ok servers => exact ⟨servers, rfl, fails⟩
    | error fault => exact absurd ((serversOf_eq_error_iff json version fault).1 read).2 described

/-- A document over JSON values that is read has schemas over JSON values. -/
theorem ends_document (version : String) :
    Ends (·.isJson = true) (fun _ => True) (document entries version) := by
  rw [document_eq]
  have servers : Ends (fun _ => True) (fun _ => True) (serversOf entries version) := by
    cases serversOf entries version <;> trivial
  refine servers.bind fun servers _ => ?_
  refine ((ends_schemas json _).mono (fun _ => id) fun _ _ => trivial).bind fun schemas right => ?_
  refine ((ends_operations json _).mono (fun _ => id) fun _ _ => trivial).bind
    fun operations each => ?_
  show (areJsonProperties schemas && operations.all Operation.isJson) = true
  rw [right, Bool.true_and, List.all_eq_true]
  exact each

/-- A document over JSON values is rejected with a fault that is reported as one of the document,
or for a server that is described by something else than a text, or for a parameter whose name or
place is a collection. The conditions of the latter two are exact: such a server is among those
listed, in the newer generation; else the reading comes to merge parameters of which one is such,
and the first of them, the operation's own in front, names the kind of collection. -/
theorem document_rejection (version : String) :
    (∀ fault, document entries version = .error fault →
      (∃ cause, fault = .malformed cause) ∨ fault = .serverDescription .text ∨
        ∃ kind, fault = .incomparable kind) ∧
    (document entries version = .error (.serverDescription .text) ↔
      HasUndescribedServer entries version) ∧
    ∀ kind, document entries version = .error (.incomparable kind) ↔
      ¬ HasUndescribedServer entries version ∧
        ∃ ofPath ofOperation, ComesToMerge entries (isSwagger version) ofPath ofOperation ∧
          (ofOperation ++ ofPath).findSome? incomparableKey? = some kind := by
  have reported := ends_operations json (isSwagger version)
  refine ⟨fun fault failure => ?_, ?_, fun kind => ?_⟩
  · rcases (document_eq_error_iff json version fault).1 failure with ⟨same, _⟩ | ⟨_, fails⟩
    · exact Or.inr (Or.inl same)
    · exact (reported.of_error fails).imp_right Or.inr
  · rw [document_eq_error_iff json]
    constructor
    · rintro (⟨_, undescribed⟩ | ⟨_, fails⟩)
      · exact undescribed
      · rcases reported.of_error fails with ⟨_, impossible⟩ | ⟨_, impossible⟩ <;> cases impossible
    · exact fun undescribed => Or.inl ⟨rfl, undescribed⟩
  · rw [document_eq_error_iff json, operations_eq_incomparable_iff json]
    simp

end

/-- A decoded document with a parameter whose name is a list. -/
def listedNameEntries : Entries :=
  [(.string "openapi", .string "3.0.0"),
    (.string "paths", .map
      [(.string "/a", .map
        [(.string "get", .map
          [(.string "parameters", .list
            [.map [(.string "name", .list [.string "id"]), (.string "in", .string "query")]])])])])]

theorem document_rejection_listedName :
    Value.areAllJson listedNameEntries = true ∧
      ¬ HasUndescribedServer listedNameEntries "3.0.0" ∧
      (∃ ofPath ofOperation, ComesToMerge listedNameEntries false ofPath ofOperation ∧
        (ofOperation ++ ofPath).findSome? incomparableKey? = some "list") ∧
      document listedNameEntries "3.0.0" = .error (.incomparable "list") := by
  have json : Value.areAllJson listedNameEntries = true := rfl
  have described : ¬ HasUndescribedServer listedNameEntries "3.0.0" := by
    rintro ⟨_, _, member, _⟩
    exact absurd member List.not_mem_nil
  have merging : ∃ ofPath ofOperation, ComesToMerge listedNameEntries false ofPath ofOperation ∧
      (ofOperation ++ ofPath).findSome? incomparableKey? = some "list" :=
    ⟨_, _, ⟨_, _, _, _, rfl, ⟨[], [], rfl, fun _ member => absurd member List.not_mem_nil⟩,
      ⟨⟨_, rfl, rfl⟩, rfl⟩, ⟨[], [], rfl, fun _ member => absurd member List.not_mem_nil⟩, rfl⟩,
      rfl⟩
  exact ⟨json, described, merging,
    ((document_rejection json "3.0.0").2.2 "list").2 ⟨described, merging⟩⟩

/-- A decoded document with a server that is described by a truth value. -/
def flaggedServerEntries : Entries :=
  [(.string "openapi", .string "3.0.0"),
    (.string "servers", .list
      [.map [(.string "url", .string "http://a"), (.string "description", .bool true)]]),
    (.string "paths", .map [])]

/-- Two documents over JSON values, of a version that is known, that are neither read nor rejected
with a fault that is reported as one of the document. -/
theorem unreported_rejections :
    (Value.areAllJson flaggedServerEntries = true ∧
      version flaggedServerEntries = .ok "3.0.0" ∧
      document flaggedServerEntries "3.0.0" = .error (.serverDescription .text)) ∧
    Value.areAllJson listedNameEntries = true ∧ version listedNameEntries = .ok "3.0.0" ∧
      document listedNameEntries "3.0.0" = .error (.incomparable "list") :=
  ⟨⟨rfl, rfl, rfl⟩, rfl, rfl, rfl⟩

end ClientModel.Extraction
