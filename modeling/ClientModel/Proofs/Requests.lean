/-
This file says which requests a run sends. A document is fetched once for each interface that is
generated or added, and nothing else is fetched. The main statement compares the ways to name an
interface: with options the placeholders in its headers are filled once, while those of a stored
configuration are filled when the configuration is read and once more when the document is fetched.
-/

import ClientModel.Program.Commands
import ClientModel.Proofs.Headers

namespace ClientModel

variable {Product Further : Type}

/-! ### What actions send -/

namespace Action

/-- The requests that an action sends on every desk. -/
def Sends (sent : List Request) (action : Action Product) : Prop :=
  ∀ desk, (action.run desk).2.requests = desk.requests ++ sent

/-- An action that sends no request. -/
def IsOffline (action : Action Product) : Prop := action.Sends []

theorem run_ofExcept (outcome : Except Failure Product) (desk : Desk) :
    (ofExcept outcome).run desk = (outcome, desk) := by
  cases outcome <;> rfl

theorem run_write (path : Path) (content : String) (desk : Desk) :
    (write path content).run desk =
      ((desk.write path content).1.mapError fun fault =>
          .defect (.unwritableFile path.text fault),
        (desk.write path content).2) := by
  show (ofExcept _).run (desk.write path content).2 = _
  rw [run_ofExcept]
  rfl

theorem isOffline_pure (product : Product) : (pure product : Action Product).IsOffline :=
  fun desk => (List.append_nil desk.requests).symm

theorem isOffline_ofExcept (outcome : Except Failure Product) : (ofExcept outcome).IsOffline :=
  fun desk => by rw [run_ofExcept, List.append_nil]

theorem isOffline_input : input.IsOffline := by
  intro desk
  show ((ofExcept _).run _).2.requests = _
  rw [run_ofExcept, List.append_nil]

theorem isOffline_read (path : Path) : (read path).IsOffline :=
  fun desk => (List.append_nil desk.requests).symm

theorem isOffline_write (path : Path) (content : String) : (write path content).IsOffline := by
  intro desk
  have kept : (desk.write path content).2.requests = desk.requests := by
    unfold Desk.write
    split <;> rfl
  rw [run_write, List.append_nil]
  exact kept

theorem exists_run_printText (target : PrintTarget) (text : String) (desk : Desk) :
    ∃ desk', (printText target text).run desk = (.ok (), desk') ∧
      desk'.requests = desk.requests := by
  unfold printText
  split
  · exact ⟨desk, rfl, rfl⟩
  · exact ⟨desk.print target text, rfl, by cases target <;> rfl⟩

/-- Printing sends nothing and never keeps from going on. -/
theorem sends_printText_bind {next : Unit → Action Product} {sent : List Request}
    (sends : (next ()).Sends sent) (target : PrintTarget) (text : String) :
    (printText target text >>= next).Sends sent := by
  intro desk
  obtain ⟨desk', printed, requests⟩ := exists_run_printText target text desk
  rw [run_bind, printed, ← requests]
  exact sends desk'

theorem isOffline_printText (target : PrintTarget) (text : String) :
    (printText target text).IsOffline := by
  intro desk
  obtain ⟨desk', printed, requests⟩ := exists_run_printText target text desk
  rw [printed, requests, List.append_nil]

/-- What follows without a request leaves those that were sent. -/
theorem sends_bind_of_isOffline {first : Action Product} {second : Product → Action Further}
    {sent : List Request} (begins : first.Sends sent)
    (goesOn : ∀ product, (second product).IsOffline) : (first >>= second).Sends sent := by
  intro desk
  rw [← begins desk, run_bind]
  split
  · next product desk' did => rw [goesOn product desk', did, List.append_nil]
  · next did => rw [did]

theorem isOffline_bind {first : Action Product} {second : Product → Action Further}
    (begins : first.IsOffline) (goesOn : ∀ product, (second product).IsOffline) :
    (first >>= second).IsOffline :=
  sends_bind_of_isOffline begins goesOn

/-- With a product at hand an action is what follows. -/
theorem sends_ofExcept_ok_bind {outcome : Except Failure Product} {product : Product}
    (success : outcome = .ok product) {next : Product → Action Further} {sent : List Request}
    (sends : (next product).Sends sent) : (ofExcept outcome >>= next).Sends sent := by
  subst success
  exact sends

end Action

/-! ### Fetching documents -/

/-- The requests by which a document is fetched: one for a URL, none for a file or the input. -/
def requestsFor (source : String) (headers : Headers) (timeout : Binary64) : List Request :=
  match Source.ofText source with
  | .url url => [Request.forDocument url headers timeout]
  | .input | .file _ => []

namespace Context

open ClientModel.Action

theorem isOffline_note (context : Context) (notice : Notice) : (context.note notice).IsOffline :=
  isOffline_printText _ _

theorem isOffline_noteAll (context : Context) (notices : List Notice) :
    (context.noteAll notices).IsOffline := by
  induction notices with
  | nil => exact isOffline_pure ()
  | cons notice rest inductionHypothesis =>
    exact isOffline_bind (context.isOffline_note notice) fun _ => inductionHypothesis

theorem isOffline_tell (context : Context) (message : Message) :
    (context.tell message).IsOffline :=
  isOffline_bind (isOffline_ofExcept _) fun _ => isOffline_printText _ _

theorem isOffline_buildModel (context : Context) (document : Document)
    (operationIds : Option (List String)) :
    (context.buildModel document operationIds).IsOffline :=
  isOffline_bind (context.isOffline_noteAll _) fun _ => isOffline_ofExcept _

theorem isOffline_deliver (context : Context) (dryRun : Bool) (entry : ApiEntry)
    (document : Document) (model : Model) :
    (context.deliver dryRun entry document model).IsOffline := by
  refine isOffline_bind (isOffline_ofExcept _) fun record => ?_
  split
  · exact isOffline_bind (isOffline_ofExcept _) fun _ => isOffline_printText _ _
  · split
    · exact context.isOffline_tell _
    · exact isOffline_bind (isOffline_ofExcept _) fun _ =>
        isOffline_bind (isOffline_write _ _) fun _ =>
          isOffline_bind (context.isOffline_note _) fun _ => context.isOffline_tell _

theorem isOffline_loadStored (context : Context) (named : Option Path) :
    (context.loadStored named).IsOffline :=
  isOffline_bind (isOffline_read _) fun _ => isOffline_ofExcept _

theorem isOffline_store (context : Context) (named : Option Path) (project : Project) :
    (context.store named project).IsOffline :=
  isOffline_bind (isOffline_write _ _) fun _ => isOffline_pure _

theorem sends_loadValue (context : Context) (source : String) (headers : Headers)
    (timeout : Binary64) :
    (context.loadValue source headers timeout).Sends (requestsFor source headers timeout) := by
  unfold loadValue requestsFor
  cases Source.ofText source with
  | input => exact isOffline_bind isOffline_input fun _ => isOffline_ofExcept _
  | url url =>
    have fetched (request : Request) : (Action.send request).Sends [request] := fun _ => rfl
    exact sends_printText_bind
      (sends_bind_of_isOffline (fetched _) fun _ => isOffline_ofExcept _) _ _
  | file name => exact isOffline_bind (isOffline_read _) fun _ => isOffline_ofExcept _

/-- A document is fetched with its headers filled once. -/
theorem sends_loadDocument (context : Context) (source : String) (headers : Headers)
    (timeout : Binary64) :
    (context.loadDocument source headers timeout).Sends
      (requestsFor source (headers.fill context.environment) timeout) :=
  sends_bind_of_isOffline (context.sends_loadValue _ _ _) fun _ => isOffline_ofExcept _

/-! ### Generating -/

/-- Whether it can be told that a document is being loaded, which comes before loading it. -/
def announces (context : Context) (source : String) : Bool :=
  (context.settings.messageText (.info s!"Loading {source}")).isOk

/-- The requests that are sent to generate an interface with given headers. -/
def generationRequests (context : Context) (source : String) (headers : Headers)
    (timeout : Binary64) : List Request :=
  if context.announces source then requestsFor source headers timeout else []

theorem sends_generateEntry (context : Context) (dryRun : Bool) (entry : ApiEntry) :
    (context.generateEntry dryRun entry).Sends
      (context.generationRequests entry.source (entry.headers.fill context.environment)
        entry.timeout) := by
  unfold generateEntry tell generationRequests announces
  -- A source with broken markup cannot be announced, and is not fetched then.
  cases context.settings.messageText (.info s!"Loading {entry.source}") with
  | error cause => exact fun desk => (List.append_nil desk.requests).symm
  | ok text =>
    refine sends_printText_bind ?_ _ _
    exact sends_bind_of_isOffline (context.sends_loadDocument _ _ _) fun document =>
      isOffline_bind (context.isOffline_buildModel _ _) fun model =>
        context.isOffline_deliver _ _ _ _

/-- Of a list of interfaces, those up to the first that fails are fetched, in their order. -/
theorem requests_generateAll (context : Context) (dryRun : Bool) (entries : List ApiEntry)
    (desk : Desk) :
    ∃ reached, 0 < reached ∧
      (((context.generateAll dryRun entries).run desk).1 = .ok () → entries.length ≤ reached) ∧
      ((context.generateAll dryRun entries).run desk).2.requests =
        desk.requests ++ (entries.take reached).flatMap fun entry =>
          context.generationRequests entry.source (entry.headers.fill context.environment)
            entry.timeout := by
  induction entries generalizing desk with
  | nil => exact ⟨1, by simp, by simp, (List.append_nil desk.requests).symm⟩
  | cons entry rest inductionHypothesis =>
    have sent := context.sends_generateEntry dryRun entry desk
    rw [generateAll, run_bind]
    cases did : (context.generateEntry dryRun entry).run desk with
    | mk outcome desk' =>
      rw [did] at sent
      cases outcome with
      | error cause =>
        -- The run stops here: this interface was reached, and none behind it.
        exact ⟨1, by simp, nofun, by simpa using sent⟩
      | ok _ =>
        obtain ⟨reached, _, whole, requests⟩ := inductionHypothesis desk'
        refine ⟨reached + 1, by simp, fun success => ?_, ?_⟩
        · simpa using whole success
        · rw [requests, sent, List.take_succ_cons, List.flatMap_cons, List.append_assoc]

/-! ### The ways to name an interface -/

theorem run_loadStored (context : Context) (named : Option Path) (desk : Desk) :
    (context.loadStored named).run desk =
      (projectOfFile (context.surroundings.configurationPath named)
        (desk.files.read desk.working (context.surroundings.configurationPath named)), desk) := by
  show (ofExcept _).run desk = _
  rw [run_ofExcept]

/-- The filled configuration has the stored one's entries with the values of their headers
filled. -/
theorem run_loadFilled (context : Context) (named : Option Path) (desk : Desk) :
    (context.loadFilled named).run desk =
      (((context.loadStored named).run desk).1.map (Option.map (Project.fill context.environment)),
        desk) := by
  rw [loadFilled, run_bind, run_loadStored]
  cases projectOfFile _ _ <;> rfl

/-- A generation without a named interface generates those of the configuration. -/
theorem run_generate_of_loaded {context : Context} {options : GenerateOptions} {desk : Desk}
    {project : Option Project} (bare : options.source = none)
    (loaded : ((context.loadFilled options.configuration).run desk).1 = .ok project) :
    (context.generate options).run desk =
      (ofExcept (configuredEntries project) >>= context.generateAll options.dryRun).run desk := by
  have kept : (context.loadFilled options.configuration).run desk = (.ok project, desk) := by
    rw [run_loadFilled] at loaded ⊢
    exact congrArg (·, desk) loaded
  rw [generate, entriesToGenerate, bare, run_bind, run_bind, kept, run_bind]

/-- An interface that is named is fetched with the headers of its options filled once. -/
theorem sends_generate {context : Context} {options : GenerateOptions} {source : String}
    {headers : Headers} (named : options.source = some source)
    (given : Headers.ofOptions options.headers = .ok headers) :
    (context.generate options).Sends
      (context.generationRequests source (headers.fill context.environment) options.timeout) := by
  let entry : ApiEntry :=
    ⟨source, source, options.output, headers, options.operationIds, options.timeout⟩
  have entries : context.entriesToGenerate options = pure [entry] := by
    simp only [entriesToGenerate, named, namedEntry, given]
    rfl
  have only : context.generate options =
      (context.generateEntry options.dryRun entry >>= fun _ => pure ()) := by
    rw [generate, entries]
    rfl
  rw [only]
  exact sends_bind_of_isOffline (context.sends_generateEntry options.dryRun entry) fun _ =>
    isOffline_pure ()

/-- An interface that is added is fetched with the headers of its options filled once. -/
theorem sends_register {context : Context} {options : RegisterOptions} {headers : Headers}
    (given : Headers.ofOptions options.document.headers = .ok headers) :
    (context.register options).Sends
      (requestsFor options.document.source (headers.fill context.environment)
        options.document.timeout) := by
  have headersGiven : (Headers.ofOptions options.document.headers).mapError Failure.usage =
      .ok headers := by rw [given]; rfl
  refine sends_ofExcept_ok_bind headersGiven (sends_bind_of_isOffline
    (context.sends_loadDocument _ _ _) fun document => ?_)
  exact isOffline_bind (context.isOffline_loadStored _) fun stored =>
    isOffline_bind (context.isOffline_store _ _) fun path =>
      isOffline_bind (context.isOffline_tell _) fun _ => context.isOffline_tell _

/-- The stored interfaces are fetched with their headers filled twice: what the first filling puts
in is read by the second. -/
theorem requests_generate_of_stored {context : Context} {options : GenerateOptions} {desk : Desk}
    {project : Project} (bare : options.source = none)
    (stored : ((context.loadStored options.configuration).run desk).1 = .ok (some project)) :
    ∃ reached, 0 < reached ∧
      (((context.generate options).run desk).1 = .ok () → project.apis.length ≤ reached) ∧
      ((context.generate options).run desk).2.requests =
        desk.requests ++ (project.apis.take reached).flatMap fun entry =>
          context.generationRequests entry.source
            ((entry.headers.fill context.environment).fill context.environment)
            entry.timeout := by
  have filled : ((context.loadFilled options.configuration).run desk).1 =
      .ok (some (project.fill context.environment)) := by
    rw [run_loadFilled, stored]
    rfl
  rw [run_generate_of_loaded bare filled]
  by_cases empty : project.apis = []
  · have stops : configuredEntries (some (project.fill context.environment)) =
        .error (.usage .nothingConfigured) := by
      simp [configuredEntries, Project.fill, empty]
    rw [stops, empty]
    exact ⟨1, Nat.one_pos, nofun, (List.append_nil desk.requests).symm⟩
  · have goesOn : configuredEntries (some (project.fill context.environment)) =
        .ok (project.apis.map (ApiEntry.fill context.environment)) := by
      simp [configuredEntries, Project.fill, empty]
    obtain ⟨reached, some, whole, requests⟩ := context.requests_generateAll options.dryRun
      (project.apis.map (ApiEntry.fill context.environment)) desk
    rw [goesOn]
    refine ⟨reached, some, fun success => by simpa using whole success, ?_⟩
    rw [← List.map_take, List.flatMap_map] at requests
    exact requests

/-! ### Stored interfaces against named ones -/

/-- A stored interface is fetched with its headers filled twice. Options can give the same headers
where these are usual; a generation and an addition with such options fetch the document with its
headers filled once. The requests are the same just where the second filling changes no header, as
where nothing that was filled in has a dollar sign. -/
theorem requests_of_stored_headers {context : Context} {options : GenerateOptions} {desk : Desk}
    {project : Project} (bare : options.source = none)
    (stored : ((context.loadStored options.configuration).run desk).1 = .ok (some project)) :
    (∃ reached, 0 < reached ∧
      (((context.generate options).run desk).1 = .ok () → project.apis.length ≤ reached) ∧
      ((context.generate options).run desk).2.requests =
        desk.requests ++ (project.apis.take reached).flatMap fun entry =>
          context.generationRequests entry.source
            ((entry.headers.fill context.environment).fill context.environment)
            entry.timeout) ∧
    ∀ entry ∈ project.apis, entry.headers.AreUsual →
      Headers.ofOptions (entry.headers.map Headers.optionOf) = .ok entry.headers ∧
      (∀ given, Headers.ofOptions given = .ok entry.headers →
        (∀ named : GenerateOptions, named.source = some entry.source → named.headers = given →
          named.timeout = entry.timeout →
          (context.generate named).Sends
            (context.generationRequests entry.source (entry.headers.fill context.environment)
              entry.timeout)) ∧
        ∀ added : RegisterOptions, added.document = ⟨entry.source, given, entry.timeout⟩ →
          (context.register added).Sends
            (requestsFor entry.source (entry.headers.fill context.environment) entry.timeout)) ∧
      (∀ url, Source.ofText entry.source = .url url →
        (requestsFor entry.source
            ((entry.headers.fill context.environment).fill context.environment) entry.timeout =
          requestsFor entry.source (entry.headers.fill context.environment) entry.timeout ↔
        ∀ header ∈ entry.headers,
          fillPlaceholders context.environment (fillPlaceholders context.environment header.2) =
            fillPlaceholders context.environment header.2)) ∧
      ((∀ header ∈ entry.headers, ∀ piece ∈ pieces header.2,
          piece.Settles context.environment) →
        (entry.headers.fill context.environment).fill context.environment =
          entry.headers.fill context.environment) := by
  refine ⟨requests_generate_of_stored bare stored,
    fun entry _ usual => ⟨?given, ?once, ?agree, Headers.fill_fill⟩⟩
  case given => exact Headers.ofOptions_map_optionOf usual
  case once =>
    intro given gives
    refine ⟨fun named source headers timeout => ?_, fun added document => ?_⟩
    · rw [← timeout]
      exact sends_generate source (headers ▸ gives)
    · have gives : Headers.ofOptions added.document.headers = .ok entry.headers := by
        rw [document]
        exact gives
      simpa only [document] using @sends_register context added entry.headers gives
  case agree =>
    intro url isUrl
    have twice : (entry.headers.fill context.environment).fill context.environment =
        entry.headers.map fun header => (header.1,
          fillPlaceholders context.environment
            (fillPlaceholders context.environment header.2)) := by
      simp [Headers.fill, Function.comp_def]
    rw [twice]
    simp only [requestsFor, isUrl, List.cons.injEq, and_true]
    exact Request.forDocument_eq_iff usual.distinct
      (fun value => fillPlaceholders context.environment
        (fillPlaceholders context.environment value)) (fillPlaceholders context.environment) _ _

/-- An interface whose header takes its value from a variable. -/
def keyEntry : ApiEntry :=
  ⟨"petstore", "http://petstore/", "./generated", [("X-Key", "$\x7bKEY\x7d")], [],
    ApiEntry.defaultTimeout⟩

/-- The text of a configuration with that interface. -/
def keyConfiguration : String :=
  "\x7b\"apis\": [\x7b\"name\": \"petstore\", \"spec\": \"http://petstore/\", " ++
  "\"headers\": \x7b\"X-Key\": \"$\x7bKEY\x7d\"\x7d\x7d]\x7d"

/-- A desk on which that configuration is stored. Nothing is answered. -/
def keyDesk : Desk where
  working := []
  files := ⟨[(["clientsynth.json"], .file keyConfiguration.toUTF8)]⟩
  input := .ok ""
  network := fun _ => .timedOut

/-- A quiet run in an environment. -/
def quietContext (environment : Environment) : Context where
  surroundings := ⟨environment, [], "Linux", false, "20260101-000000"⟩
  settings := ⟨.plain, true, true, false, usualWidth⟩

/-- A generation of what is stored. -/
def bareOptions : GenerateOptions where
  source := none
  headers := []
  timeout := ApiEntry.defaultTimeout
  output := ApiEntry.defaultOutput
  operationIds := []
  dryRun := false
  configuration := some ⟨"/", ["clientsynth.json"]⟩

theorem areUsual_keyEntry : keyEntry.headers.AreUsual where
  distinct := by decide
  usual := by
    intro header member
    obtain rfl := List.mem_singleton.1 member
    exact ⟨by decide, by decide, by decide, by decide⟩

theorem projectOfFile_keyConfiguration (path : Path) :
    projectOfFile path (.bytes keyConfiguration.toUTF8) = .ok (some ⟨[keyEntry]⟩) := by
  rfl

theorem loadStored_keyDesk (environment : Environment) :
    (((quietContext environment).loadStored bareOptions.configuration).run keyDesk).1 =
      .ok (some ⟨[keyEntry]⟩) := by
  have stored : keyDesk.files.read keyDesk.working
      ((quietContext environment).surroundings.configurationPath bareOptions.configuration) =
        .bytes keyConfiguration.toUTF8 := rfl
  rw [run_loadStored, stored, projectOfFile_keyConfiguration]

/-- With a plain value of the variable the stored interface is fetched like a named one. -/
theorem requests_of_stored_headers_plainKey :
    (((quietContext [("KEY", "secret")]).loadStored bareOptions.configuration).run keyDesk).1 =
        .ok (some ⟨[keyEntry]⟩) ∧
      keyEntry.headers.AreUsual ∧
      requestsFor keyEntry.source
          ((keyEntry.headers.fill [("KEY", "secret")]).fill [("KEY", "secret")])
          keyEntry.timeout =
        requestsFor keyEntry.source (keyEntry.headers.fill [("KEY", "secret")])
          keyEntry.timeout := by
  have stored := loadStored_keyDesk [("KEY", "secret")]
  have entry := (requests_of_stored_headers (rfl : bareOptions.source = none) stored).2 keyEntry
    (List.mem_singleton_self _) areUsual_keyEntry
  exact ⟨stored, areUsual_keyEntry, (entry.2.2.1 "http://petstore/" rfl).2 (by decide)⟩

/-- Where the value of the variable is itself written with a placeholder, the header of the stored
interface is sent with the value of the other variable, and the same header of an option is sent
with the placeholder. -/
theorem requests_differ_nestedKey :
    let context := quietContext [("KEY", "$\x7bOTHER\x7d"), ("OTHER", "secret")]
    let named := { bareOptions with
      source := some "http://petstore/", headers := ["X-Key: $\x7bKEY\x7d"] }
    ((context.loadStored bareOptions.configuration).run keyDesk).1 = .ok (some ⟨[keyEntry]⟩) ∧
      keyEntry.headers.AreUsual ∧
      Headers.ofOptions named.headers = .ok keyEntry.headers ∧
      keyEntry.headers.fill context.environment = [("X-Key", "$\x7bOTHER\x7d")] ∧
      ((context.generate named).run keyDesk).2.requests =
        [Request.forDocument "http://petstore/" [("X-Key", "$\x7bOTHER\x7d")]
          keyEntry.timeout] ∧
      ((context.generate bareOptions).run keyDesk).2.requests =
        [Request.forDocument "http://petstore/" [("X-Key", "secret")] keyEntry.timeout] ∧
      ((context.generate bareOptions).run keyDesk).2.requests ≠
        ((context.generate named).run keyDesk).2.requests := by
  intro context named
  have once : ((context.generate named).run keyDesk).2.requests =
      [Request.forDocument "http://petstore/" [("X-Key", "$\x7bOTHER\x7d")] keyEntry.timeout] := by
    decide +kernel
  have twice : ((context.generate bareOptions).run keyDesk).2.requests =
      [Request.forDocument "http://petstore/" [("X-Key", "secret")] keyEntry.timeout] := by
    decide +kernel
  refine ⟨loadStored_keyDesk _, areUsual_keyEntry, rfl, by decide, once, twice, ?_⟩
  rw [once, twice]
  decide

end Context

end ClientModel
