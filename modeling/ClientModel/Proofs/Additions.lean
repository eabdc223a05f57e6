/-
This file says what additions to a configuration leave in its file. A run that adds an interface
stores it after everything else has succeeded, so a run that fails has changed no file. The main
statements are about two additions in different environments, and about any number of additions to
one configuration, with anything happening between them.
-/

import ClientModel.Proofs.ProjectChanges
import ClientModel.Proofs.StoredProjects
import ClientModel.Proofs.Storing

namespace ClientModel

variable {Product : Type}

/-! ### Timeouts of commands -/

/-- How many seconds a fetch of a command may take. -/
def Command.timeout : Command → Binary64
  | .generate options => options.timeout
  | .register options => options.document.timeout
  | .info options | .listTypes options | .listOperations options => options.timeout

namespace CommandLine

theorem isProper_of_timeoutOf {read : ReadArguments Key} {seconds : Binary64}
    (found : timeoutOf read = .ok seconds) : seconds.IsProper := by
  unfold timeoutOf at found
  split at found
  · cases found
    exact Binary64.isProper_ofInt 30
  · next text _ =>
    split at found
    · next number here =>
      cases found
      exact Binary64.isProper_of_readLoose? here
    · cases found

theorem isProper_of_documentOptions {read : ReadArguments Key} {options : DocumentOptions}
    (found : documentOptions read = .ok options) : options.timeout.IsProper := by
  obtain ⟨source, _, found⟩ := (bind_eq_ok_iff _ _ _).1 found
  obtain ⟨seconds, given, found⟩ := (bind_eq_ok_iff _ _ _).1 found
  cases found
  exact isProper_of_timeoutOf given

theorem isProper_of_readLook {make : DocumentOptions → Command} {arguments : List String}
    {command : Command} (timeout : ∀ options, (make options).timeout = options.timeout)
    (found : readLook make arguments = .ok command) : command.timeout.IsProper := by
  obtain ⟨read, _, found⟩ := (bind_eq_ok_iff _ _ _).1 found
  obtain ⟨options, given, found⟩ := (bind_eq_ok_iff _ _ _).1 found
  cases found
  rw [timeout]
  exact isProper_of_documentOptions given

theorem isProper_of_readInspect {arguments : List String} {command : Command}
    (found : readInspect arguments = .ok command) : command.timeout.IsProper := by
  unfold readInspect at found
  split at found
  · cases found
  · split at found
    · cases found
    · split at found
      · cases found
      · split at found
        · exact isProper_of_readLook (fun _ => rfl) found
        · exact isProper_of_readLook (fun _ => rfl) found
        · cases found

theorem isProper_of_readCommand {word : String} {arguments : List String} {command : Command}
    (found : readCommand word arguments = .ok command) : command.timeout.IsProper := by
  unfold readCommand at found
  split at found
  · obtain ⟨read, _, found⟩ := (bind_eq_ok_iff _ _ _).1 found
    obtain ⟨source, _, found⟩ := (bind_eq_ok_iff _ _ _).1 found
    obtain ⟨seconds, given, found⟩ := (bind_eq_ok_iff _ _ _).1 found
    cases found
    exact isProper_of_timeoutOf given
  · exact isProper_of_readLook (fun _ => rfl) found
  · obtain ⟨read, _, found⟩ := (bind_eq_ok_iff _ _ _).1 found
    obtain ⟨options, given, found⟩ := (bind_eq_ok_iff _ _ _).1 found
    cases found
    exact isProper_of_documentOptions given
  · exact isProper_of_readInspect found
  · cases found

/-- Whatever command arguments give, its timeout is a number of the format. -/
theorem isProper_timeout_of_read {arguments : List String} {output : OutputOptions}
    {command : Command} (asked : read arguments = .ok (output, command)) :
    command.timeout.IsProper := by
  unfold read at asked
  split at asked
  · cases asked
  · split at asked
    · cases asked
    · split at asked
      · cases asked
      · cases asked
      · next word rest _ _ =>
        cases found : readCommand word rest with
        | error stop =>
          rw [found] at asked
          cases asked
        | ok other =>
          rw [found] at asked
          cases asked
          exact isProper_of_readCommand found

end CommandLine

/-! ### Entries that can be stored -/

theorem mapError_eq_ok_iff {Fault Other : Type} (result : Except Fault Product)
    (change : Fault → Other) (product : Product) :
    result.mapError change = .ok product ↔ result = .ok product := by
  cases result <;> simp [Except.mapError]

/-- Options give headers with different names. -/
theorem Headers.nodup_of_ofOptions {options : List String} {headers : Headers}
    (given : Headers.ofOptions options = .ok headers) : (headers.map Prod.fst).Nodup := by
  obtain ⟨entries, _, given⟩ := (bind_eq_ok_iff _ _ _).1 given
  cases given
  exact Placement.nodup_keys_ofList entries

theorem Context.headers_entryFor (document : Document) (options : RegisterOptions)
    (headers : Headers) : (entryFor document options headers).headers = headers := by
  unfold entryFor
  split
  · split <;> rfl
  · rfl

theorem Context.timeout_entryFor (document : Document) (options : RegisterOptions)
    (headers : Headers) :
    (entryFor document options headers).timeout = options.document.timeout := by
  unfold entryFor
  split
  · split <;> rfl
  · rfl

theorem Project.isTidy_put {project : Project} {entry : ApiEntry} (tidy : project.IsTidy)
    (right : entry.IsTidy) : (project.put entry).IsTidy := by
  intro other member
  unfold put replaced at member
  split at member
  · obtain ⟨existing, among, rfl⟩ := List.mem_map.1 member
    split
    · exact right
    · exact tidy existing among
  · rcases List.mem_append.1 member with among | last
    · exact tidy other among
    · exact List.mem_singleton.1 last ▸ right

/-! ### Additions -/

/-- A run on a desk that adds an interface to a configuration. Its timeout is a number of the
format, as every number is that arguments give. -/
structure Addition where
  context : Context
  options : RegisterOptions
  desk : Desk
  isProper_timeout : options.document.timeout.IsProper

namespace Addition

/-- Where the configuration is. -/
def path (addition : Addition) : Path :=
  addition.context.surroundings.configurationPath addition.options.configuration

/-- How the run ends. -/
def outcome (addition : Addition) : Except Failure Unit :=
  ((addition.context.register addition.options).run addition.desk).1

/-- What the run leaves. -/
def left (addition : Addition) : Desk :=
  ((addition.context.register addition.options).run addition.desk).2

/-- What is in the place of the configuration before the run. -/
def before (addition : Addition) : FileContent :=
  addition.desk.files.read addition.desk.working addition.path

/-- What is in the place of the configuration after the run. -/
def after (addition : Addition) : FileContent :=
  addition.left.files.read addition.left.working addition.path

/-- The headers that the options give. -/
def headers (addition : Addition) : Except Failure Headers :=
  (Headers.ofOptions addition.options.document.headers).mapError .usage

/-- The document that the run loads. -/
def document (addition : Addition) : Except Failure Document := do
  let headers ← addition.headers
  let options := addition.options.document
  ((addition.context.loadDocument options.source headers options.timeout).run addition.desk).1

/-- The entry that the run makes. -/
def entry (addition : Addition) : Except Failure ApiEntry := do
  let headers ← addition.headers
  let document ← addition.document
  pure (Context.entryFor document addition.options headers)

/-- The files with an entry put into the configuration. -/
def filesWith (addition : Addition) (entry : ApiEntry) : Except Failure FileTree := do
  let found ← Context.projectOfFile addition.path addition.before
  let text := ((found.getD {}).put entry).text
  (addition.desk.files.write addition.desk.working addition.path text.toUTF8).mapError
    fun fault => .defect (.unwritableFile addition.path.text fault)

/-- What a run tells after it has stored its entry. -/
def farewell (addition : Addition) (text : String) : Action Unit := do
  addition.context.tell (.success text)
  addition.context.tell (.suggestion "Generate: clientsynth generate")

/-- A run stores its entry unless something fails before, and ends as its farewell ends. -/
theorem stores_register {addition : Addition} {Ends : Except Failure Unit → Prop}
    (ends : ∀ text desk, Ends ((addition.farewell text).run desk).1) :
    (addition.context.register addition.options).Stores
      (addition.entry >>= addition.filesWith) Ends addition.desk := by
  have same : addition.entry >>= addition.filesWith = (do
      let headers ← addition.headers
      let options := addition.options.document
      let document ← ((addition.context.loadDocument options.source headers
        options.timeout).run addition.desk).1
      addition.filesWith (Context.entryFor document addition.options headers)) := by
    unfold entry document
    cases addition.headers with
    | error cause => rfl
    | ok headers =>
      dsimp only [bind, Except.bind]
      generalize ((addition.context.loadDocument _ headers _).run addition.desk).1 = loaded
      cases loaded <;> rfl
  rw [same]
  refine Action.stores_ofExcept_bind fun headers => ?_
  refine Action.stores_bind (Context.leavesFiles_loadDocument _ _ _ _)
    fun document desk files working => ?_
  rw [filesWith, before, ← files, ← working]
  have found : Context.projectOfFile addition.path (desk.files.read desk.working addition.path) =
      ((addition.context.loadStored addition.options.configuration).run desk).1 := by
    rw [Context.run_loadStored]
    rfl
  rw [found]
  refine Action.stores_bind (Context.leavesFiles_loadStored _ _)
    fun found desk' files' working' => ?_
  rw [← files', ← working']
  exact Context.stores_store_bind
    (fun _ => Action.leavesFiles_bind (Context.leavesFiles_tell _ _) fun _ =>
      Context.leavesFiles_tell _ _)
    (fun _ => ends _) desk'

/-- A run that has stored its entry only fails to tell so. -/
theorem stores_register_or_tells (addition : Addition) :
    (addition.context.register addition.options).Stores (addition.entry >>= addition.filesWith)
      (fun outcome => ∀ cause, outcome = .error cause → ∃ fault, cause = .defect (.markup fault))
      addition.desk :=
  stores_register fun _ => Action.onlyFailsToTell_bind (Context.onlyFailsToTell_tell _ _) fun _ =>
    Context.onlyFailsToTell_tell _ _

/-- A quiet run, which tells nothing, fails just where it stores nothing. -/
theorem outcome_of_quiet {addition : Addition} (quiet : addition.context.settings.quiet = true) :
    addition.outcome = (addition.entry >>= addition.filesWith).map fun _ => () := by
  have silent (text : String) (desk : Desk) : ((addition.farewell text).run desk).1 = .ok () := by
    simp [farewell, Context.tell, OutputSettings.messageText, Message.isQuietable, quiet,
      Action.run_bind, Action.run_ofExcept, Action.printText, Action.run]
  have stores : (addition.context.register addition.options).Stores
      (addition.entry >>= addition.filesWith) (· = .ok ()) addition.desk := stores_register silent
  replace stores := stores.2
  cases made : addition.entry >>= addition.filesWith with
  | ok files =>
    rw [made] at stores
    exact stores.2
  | error cause =>
    rw [made] at stores
    exact stores.2

theorem working_left (addition : Addition) : addition.left.working = addition.desk.working :=
  addition.stores_register_or_tells.1

/-- A run leaves the files with its entry where it has come to storing them, else those that were
there. -/
theorem files_left (addition : Addition) :
    addition.left.files =
      (addition.entry >>= addition.filesWith).toOption.getD addition.desk.files := by
  have stores := addition.stores_register_or_tells.2
  cases made : addition.entry >>= addition.filesWith with
  | ok files =>
    rw [made] at stores
    exact stores.1
  | error cause =>
    rw [made] at stores
    exact stores.1

theorem stored_of_success {addition : Addition} (success : addition.outcome = .ok ()) :
    addition.entry >>= addition.filesWith = .ok addition.left.files := by
  have stores := addition.stores_register_or_tells.2
  cases made : addition.entry >>= addition.filesWith with
  | ok files =>
    rw [made] at stores
    exact congrArg Except.ok stores.1.symm
  | error cause =>
    rw [made] at stores
    exact absurd (success.symm.trans stores.2) nofun

/-- Whether the run can tell what it has done. Its last messages hold names and paths, which may be
broken markup; a run that fails for that has stored its entry all the same. -/
def IsTold (addition : Addition) : Prop :=
  ∀ fault, addition.outcome ≠ .error (.defect (.markup fault))

section

variable {addition : Addition} {entry : ApiEntry} {found : Option Project}
  (quiet : addition.context.settings.quiet = true) (made : addition.entry = .ok entry)
  (loads : Context.projectOfFile addition.path addition.before = .ok found)

include quiet made loads

/-- A quiet run that has made its entry and found the configuration ends as storing it ends. -/
theorem outcome_of_found :
    addition.outcome =
      ((addition.desk.files.write addition.desk.working addition.path
        ((found.getD {}).put entry).text.toUTF8).mapError fun fault =>
          .defect (.unwritableFile addition.path.text fault)).map fun _ => () := by
  rw [outcome_of_quiet quiet, made]
  show Except.map _ (addition.filesWith entry) = _
  rw [filesWith, loads]
  rfl

/-- Such a run can tell what it has done. -/
theorem isTold_of_found : addition.IsTold := by
  intro fault
  rw [outcome_of_found quiet made loads]
  cases addition.desk.files.write _ _ _ <;> nofun

/-- Such a run succeeds where its text can be written. -/
theorem success_of_found
    (fits : (addition.desk.files.write addition.desk.working addition.path
      ((found.getD {}).put entry).text.toUTF8).isOk = true) :
    addition.outcome = .ok () := by
  rw [outcome_of_found quiet made loads]
  cases written : addition.desk.files.write addition.desk.working addition.path
      ((found.getD {}).put entry).text.toUTF8 with
  | ok _ => rfl
  | error fault =>
    rw [written] at fits
    cases fits

end

/-- A run that fails has changed no file. -/
theorem files_left_of_failure {addition : Addition} (told : addition.IsTold)
    (failure : addition.outcome ≠ .ok ()) : addition.left.files = addition.desk.files := by
  have stores := addition.stores_register_or_tells.2
  cases made : addition.entry >>= addition.filesWith with
  | ok files =>
    rw [made] at stores
    cases ended : addition.outcome with
    | ok _ => exact absurd ended failure
    | error cause =>
      obtain ⟨fault, rfl⟩ := stores.2 cause ended
      exact absurd ended (told fault)
  | error cause =>
    rw [made] at stores
    exact stores.1

theorem after_of_failure {addition : Addition} (told : addition.IsTold)
    (failure : addition.outcome ≠ .ok ()) : addition.after = addition.before := by
  rw [after, before, files_left_of_failure told failure, working_left]

/-! ### What is found afterwards -/

theorem entry_eq_ok_iff (addition : Addition) (entry : ApiEntry) :
    addition.entry = .ok entry ↔
      ∃ headers document, Headers.ofOptions addition.options.document.headers = .ok headers ∧
        addition.document = .ok document ∧
        Context.entryFor document addition.options headers = entry := by
  simp only [Addition.entry, headers, bind_eq_ok_iff, mapError_eq_ok_iff, pure, Except.pure,
    Except.ok.injEq, exists_and_left]

/-- The headers of the entry are those that the options give, as they are given. -/
theorem headers_of_entry {addition : Addition} {entry : ApiEntry}
    (made : addition.entry = .ok entry) :
    Headers.ofOptions addition.options.document.headers = .ok entry.headers := by
  obtain ⟨headers, document, given, _, rfl⟩ := (entry_eq_ok_iff _ _).1 made
  rw [given, Context.headers_entryFor]

theorem isTidy_of_entry {addition : Addition} {entry : ApiEntry}
    (made : addition.entry = .ok entry) : entry.IsTidy := by
  refine ⟨Headers.nodup_of_ofOptions (headers_of_entry made), ?_⟩
  obtain ⟨headers, document, _, _, rfl⟩ := (entry_eq_ok_iff _ _).1 made
  rw [Context.timeout_entryFor]
  exact addition.isProper_timeout

theorem entry_congr {addition other : Addition} (options : addition.options = other.options)
    (document : addition.document = other.document) : addition.entry = other.entry := by
  rw [Addition.entry, Addition.entry, headers, headers, options, document]

/-- A run that succeeds leaves the text of the configuration with its entry. -/
theorem after_of_success {addition : Addition} (success : addition.outcome = .ok ()) :
    ∃ entry found, addition.entry = .ok entry ∧
      Context.projectOfFile addition.path addition.before = .ok found ∧
      addition.after = .bytes ((found.getD {}).put entry).text.toUTF8 := by
  obtain ⟨entry, made, stored⟩ := (bind_eq_ok_iff _ _ _).1 (stored_of_success success)
  obtain ⟨found, here, stored⟩ := (bind_eq_ok_iff _ _ _).1 stored
  refine ⟨entry, found, made, here, ?_⟩
  rw [after, working_left, FileTree.read_of_write ((mapError_eq_ok_iff _ _ _).1 stored)]

/-- After a run that succeeds, the configuration with its entry is found. -/
theorem projectOfFile_after {addition : Addition} (success : addition.outcome = .ok ()) :
    ∃ entry found, addition.entry = .ok entry ∧
      Context.projectOfFile addition.path addition.before = .ok found ∧
      Context.projectOfFile addition.path addition.after =
        .ok (some ((found.getD {}).put entry)) := by
  obtain ⟨entry, found, made, here, left⟩ := after_of_success success
  refine ⟨entry, found, made, here, ?_⟩
  have tidy : (found.getD {}).IsTidy := by
    cases found with
    | none => exact fun _ member => nomatch member
    | some project => exact Project.isTidy_of_projectOfFile here
  rw [left]
  exact projectOfFile_text (Project.isTidy_put tidy (isTidy_of_entry made)) _

/-- The entry that the run has stored; none where it fails. -/
def stored? (addition : Addition) : Option ApiEntry :=
  match addition.outcome with
  | .ok _ => addition.entry.toOption
  | .error _ => none

theorem stored?_of_success {addition : Addition} {entry : ApiEntry}
    (success : addition.outcome = .ok ()) (made : addition.entry = .ok entry) :
    addition.stored? = some entry := by
  rw [stored?, success, made]
  rfl

theorem success_iff_exists_stored? (addition : Addition) :
    addition.outcome = .ok () ↔ ∃ entry, addition.stored? = some entry := by
  constructor
  · intro success
    obtain ⟨entry, _, made, _⟩ := after_of_success success
    exact ⟨entry, stored?_of_success success made⟩
  · rintro ⟨entry, stored⟩
    unfold stored? at stored
    split at stored
    · assumption
    · cases stored

theorem stored?_of_failure {addition : Addition} (failure : addition.outcome ≠ .ok ()) :
    addition.stored? = none := by
  unfold stored?
  split
  · next ended => exact absurd ended failure
  · rfl

/-! ### Environments -/

/-- Two runs that are asked for the same in one place and on the same files. Their environments name
the same configuration; all else in them may differ. -/
structure IsLike (first second : Addition) : Prop where
  options : first.options = second.options
  files : first.desk.files = second.desk.files
  working : first.desk.working = second.desk.working
  place : first.context.surroundings.working = second.context.surroundings.working
  configuration : first.context.environment.get? "CLIENTSYNTH_CONFIG" =
    second.context.environment.get? "CLIENTSYNTH_CONFIG"

theorem path_of_isLike {first second : Addition} (alike : first.IsLike second) :
    first.path = second.path := by
  have named : first.context.surroundings.environment.filled? "CLIENTSYNTH_CONFIG" =
      second.context.surroundings.environment.filled? "CLIENTSYNTH_CONFIG" := by
    unfold Environment.filled?
    rw [show first.context.surroundings.environment.get? _ = _ from alike.configuration]
    rfl
  unfold path Surroundings.configurationPath
  rw [alike.options, alike.place, named]

theorem filesWith_of_isLike {first second : Addition} (alike : first.IsLike second) :
    first.filesWith = second.filesWith := by
  funext entry
  rw [filesWith, filesWith, before, before, path_of_isLike alike, alike.files, alike.working]

theorem files_left_of_isLike {first second : Addition} (alike : first.IsLike second)
    (documents : ∀ document, first.document = .ok document ↔ second.document = .ok document) :
    first.left.files = second.left.files := by
  have entries (entry : ApiEntry) : first.entry = .ok entry ↔ second.entry = .ok entry := by
    simp only [entry_eq_ok_iff, alike.options, documents]
  have stored (files : FileTree) : first.entry >>= first.filesWith = .ok files ↔
      second.entry >>= second.filesWith = .ok files := by
    simp only [bind_eq_ok_iff, entries, filesWith_of_isLike alike]
  rw [files_left, files_left, alike.files]
  refine congrArg (Option.getD · _) (Option.ext fun files => ?_)
  simpa only [toOption_eq_some_iff] using stored files

/-- What an addition leaves in the files does not depend on the environment, beyond where the
configuration is and which document is loaded. Headers are found in the configuration as options
gave them, and those of every other interface as they were there before: no placeholder is
filled. -/
theorem left_of_environments {first second : Addition} (alike : first.IsLike second)
    (documents : ∀ document, first.document = .ok document ↔ second.document = .ok document) :
    first.path = second.path ∧ first.left.files = second.left.files ∧
      first.after = second.after ∧
      (first.outcome = .ok () → ∃ entry found project, first.entry = .ok entry ∧
        Headers.ofOptions first.options.document.headers = .ok entry.headers ∧
        Context.projectOfFile first.path first.before = .ok found ∧
        Context.projectOfFile first.path first.after = .ok (some project) ∧
        project.api? entry.name = some entry ∧
        ∀ existing ∈ (found.getD {}).apis, existing.name ≠ entry.name →
          existing ∈ project.apis) := by
  have files := files_left_of_isLike alike documents
  refine ⟨path_of_isLike alike, files, ?_, fun success => ?_⟩
  · rw [after, after, files, path_of_isLike alike, working_left, working_left, alike.working]
  · obtain ⟨entry, found, made, here, afterwards⟩ := projectOfFile_after success
    refine ⟨entry, found, _, made, headers_of_entry made, here, afterwards, ?_, ?_⟩
    · exact (Project.api?_put _ _ _).trans (if_pos rfl)
    · intro existing member different
      have kept : existing ∈ ((found.getD {}).putAll [entry]).apis :=
        Project.mem_apis_putAll member (by simpa using different.symm)
      exact kept

theorem document_of_file {first second : Addition} {name : String}
    (file : Source.ofText first.options.document.source = .file name)
    (options : first.options = second.options)
    (content : first.desk.files.read first.desk.working (Path.ofText name) =
      second.desk.files.read second.desk.working (Path.ofText name)) :
    first.document = second.document := by
  rw [document, document, headers, headers, ← options]
  simp only [Context.run_loadDocument_of_file file, content]

/-- The text of a document without operations. -/
def emptyDocument : String :=
  "\x7b\"openapi\": \"3.0.0\", \"info\": \x7b\"title\": \"Petstore\", \"version\": \"1\"\x7d, " ++
  "\"paths\": \x7b\x7d\x7d"

/-- A desk with that document, and with a configuration if one is given. -/
def documentDesk (configuration : Option String) : Desk where
  working := []
  files := ⟨(["petstore.json"], .file emptyDocument.toUTF8) ::
    configuration.toList.map fun text => (["clientsynth.json"], .file text.toUTF8)⟩
  input := .ok ""
  network := fun _ => .timedOut

/-- A quiet addition of that document with a header. -/
def documentAddition (environment : Environment) (header : String) (desk : Desk) : Addition where
  context := Context.quietContext environment
  options :=
    ⟨⟨"petstore.json", [header], ApiEntry.defaultTimeout⟩, ApiEntry.defaultOutput, none,
      some ⟨"/", ["clientsynth.json"]⟩⟩
  desk := desk
  isProper_timeout := Binary64.isProper_ofInt 30

/-- The entry of the document with a header that takes its value from a variable. -/
def documentEntry : ApiEntry :=
  ⟨"Petstore", "petstore.json", ApiEntry.defaultOutput, [("X-Key", "$\x7bKEY\x7d")], [],
    ApiEntry.defaultTimeout⟩

/-- The addition of that entry. -/
def keyAddition (environment : Environment) (configuration : Option String) : Addition :=
  documentAddition environment "X-Key: $\x7bKEY\x7d" (documentDesk configuration)

theorem document_keyAddition (environment environment' : Environment)
    (configuration configuration' : Option String) :
    (keyAddition environment configuration).document =
      (keyAddition environment' configuration').document :=
  have file : Source.ofText "petstore.json" = .file "petstore.json" := by decide +kernel
  document_of_file file rfl rfl

theorem entry_keyAddition (environment : Environment) (configuration : Option String) :
    (keyAddition environment configuration).entry = .ok documentEntry := by
  have made : (keyAddition [] none).entry.toOption = some documentEntry := by decide +kernel
  rw [← (toOption_eq_some_iff _ _).1 made]
  exact entry_congr rfl (document_keyAddition _ _ _ _)

/-- The header of the new interface and that of the one which was there are stored with their
placeholders, whatever the value of the variable. -/
theorem left_of_environments_secretKey :
    let addition (key : String) := keyAddition [("KEY", key)] (some Context.keyConfiguration)
    (addition "secret").left.files = (addition "other").left.files ∧
      ∃ project,
        Context.projectOfFile (addition "secret").path (addition "secret").after =
          .ok (some project) ∧
        project.api? "Petstore" = some documentEntry ∧ Context.keyEntry ∈ project.apis := by
  intro addition
  have alike : (addition "secret").IsLike (addition "other") := ⟨rfl, rfl, rfl, rfl, rfl⟩
  have documents : (addition "secret").document = (addition "other").document :=
    document_keyAddition _ _ _ _
  have loads : Context.projectOfFile (addition "secret").path (addition "secret").before =
      .ok (some ⟨[Context.keyEntry]⟩) := Context.projectOfFile_keyConfiguration _
  have success : (addition "secret").outcome = .ok () :=
    success_of_found rfl (entry_keyAddition _ _) loads (by decide +kernel)
  obtain ⟨_, files, _, stored⟩ := left_of_environments alike fun document => by rw [documents]
  obtain ⟨entry, found, project, made, _, before, after, here, others⟩ := stored success
  obtain rfl := Except.ok.inj (made.symm.trans (entry_keyAddition _ _))
  obtain rfl := Except.ok.inj (loads.symm.trans before)
  exact ⟨files, project, after, here, others _ (List.mem_singleton_self _) (by decide)⟩

end Addition

/-! ### Histories -/

/-- Additions to one configuration one after another: each finds in its place what the one before
left there. Anything else may change between them. Each succeeds, or fails for something other than
telling that it has succeeded. -/
inductive History (path : Path) : FileContent → List Addition → FileContent → Prop where
  | nil (content : FileContent) : History path content [] content
  | cons {addition : Addition} {rest : List Addition} {final : FileContent}
    (here : addition.path = path) (told : addition.IsTold)
    (further : History path addition.after rest final) :
    History path addition.before (addition :: rest) final

namespace History

open Addition

variable {path : Path} {start final : FileContent} {additions : List Addition}

/-- A history of two parts has something in the place of the configuration between them. -/
theorem exists_of_append {front back : List Addition}
    (history : History path start (front ++ back) final) :
    ∃ middle, History path start front middle ∧ History path middle back final := by
  induction front generalizing start with
  | nil => exact ⟨start, .nil start, history⟩
  | cons addition rest inductionHypothesis =>
    cases history with
    | cons here told further =>
      obtain ⟨middle, first, second⟩ := inductionHypothesis further
      exact ⟨middle, .cons here told first, second⟩

theorem isTold {addition : Addition} (history : History path start additions final)
    (member : addition ∈ additions) : addition.IsTold := by
  induction history with
  | nil => cases member
  | cons here told further inductionHypothesis =>
    rcases List.mem_cons.1 member with rfl | among
    · exact told
    · exact inductionHypothesis among

/-- The entries that were stored, in the order of the runs. -/
def entries (additions : List Addition) : List ApiEntry := additions.filterMap Addition.stored?

/-- After any additions the configuration is found with the entries of those that succeeded. -/
theorem projectOfFile_final {found : Option Project}
    (history : History path start additions final)
    (loads : Context.projectOfFile path start = .ok found) :
    ∃ found', Context.projectOfFile path final = .ok found' ∧
      found'.getD {} = (found.getD {}).putAll (entries additions) ∧
      (found.isSome → found'.isSome) := by
  induction history generalizing found with
  | nil content => exact ⟨found, loads, rfl, id⟩
  | @cons addition rest final here told further inductionHypothesis =>
    subst here
    by_cases success : addition.outcome = .ok ()
    · obtain ⟨entry, other, made, before, after⟩ := Addition.projectOfFile_after success
      obtain rfl : other = found := Except.ok.inj (before.symm.trans loads)
      obtain ⟨found', loads', same, some⟩ := inductionHypothesis after
      have stored : entries (addition :: rest) = entry :: entries rest :=
        List.filterMap_cons_some (Addition.stored?_of_success success made)
      refine ⟨found', loads', ?_, fun _ => some rfl⟩
      rw [same, stored]
      rfl
    · rw [← Addition.after_of_failure told success] at loads
      obtain ⟨found', loads', same, some⟩ := inductionHypothesis loads
      have nothing : entries (addition :: rest) = entries rest :=
        List.filterMap_cons_none (Addition.stored?_of_failure success)
      refine ⟨found', loads', ?_, some⟩
      rw [same, nothing]

/-- A run that asks again for what an earlier one has stored changes nothing in the configuration
that is found, where no entry of the name was stored between them. -/
theorem projectOfFile_again {front between back : List Addition} {first again : Addition}
    {found : Option Project}
    (history : History path start (front ++ first :: (between ++ again :: back)) final)
    (loads : Context.projectOfFile path start = .ok found)
    (distinct : (found.getD {}).names.Nodup) (success : first.outcome = .ok ())
    (options : again.options = first.options) (document : again.document = first.document)
    (others : ∀ own, first.stored? = some own → ∀ entry ∈ entries between, entry.name ≠ own.name) :
    Context.projectOfFile path again.after = Context.projectOfFile path again.before := by
  obtain ⟨_, begins, goesOn⟩ := exists_of_append history
  obtain ⟨found₁, loads₁, same₁, _⟩ := projectOfFile_final begins loads
  cases goesOn with | cons here told further =>
  obtain ⟨_, amid, ends⟩ := exists_of_append further
  cases ends with | cons here' told' _ =>
  obtain ⟨entry, found₂, made, before, after⟩ := Addition.projectOfFile_after success
  rw [here] at before after
  obtain rfl : found₂ = found₁ := Except.ok.inj (before.symm.trans loads₁)
  obtain ⟨found₃, loads₃, same₃, some₃⟩ := projectOfFile_final amid after
  obtain ⟨project, rfl⟩ := Option.isSome_iff_exists.1 (some₃ rfl)
  -- The entry still stands where the first run has put it.
  have distinct₃ : project.names.Nodup := by
    rw [show project = _ from same₃]
    refine Project.nodup_names_putAll (Project.nodup_names_put ?_ entry) _
    rw [same₁]
    exact Project.nodup_names_putAll distinct _
  have stands : project.api? entry.name = some entry := by
    have unnamed := Project.latest?_eq_none
      (others entry (Addition.stored?_of_success success made))
    rw [show project = _ from same₃, Project.api?_putAll, unnamed, Option.none_or]
    exact (Project.api?_put _ _ _).trans (if_pos rfl)
  by_cases success' : again.outcome = .ok ()
  · obtain ⟨entry', found₄, made', before', after'⟩ := Addition.projectOfFile_after success'
    rw [here'] at before' after'
    obtain rfl : found₄ = some project := Except.ok.inj (before'.symm.trans loads₃)
    obtain rfl : entry' = entry := by
      rw [Addition.entry_congr options document, made] at made'
      exact (Except.ok.inj made').symm
    rw [after', before', Option.getD_some, Project.put_eq_self distinct₃ stands]
  · rw [Addition.after_of_failure told' success']

/-- Any additions to one configuration leave one whose interfaces have different names. Under a name
stands what the last successful addition has put there, else what was there; interfaces that no
successful addition names are unchanged. Those that were there keep their places, and new ones come
behind them in the order in which they were first put. The additions that succeed are those that
store an entry; one that fails leaves the file as it was, and one that only repeats an earlier one
changes nothing. -/
theorem configuration_of_additions {found : Option Project}
    (history : History path start additions final)
    (loads : Context.projectOfFile path start = .ok found)
    (distinct : (found.getD {}).names.Nodup) :
    (∃ found', Context.projectOfFile path final = .ok found' ∧
      (found'.getD {}).names.Nodup ∧
      (∀ name, (found'.getD {}).api? name =
        (Project.latest? name (entries additions)).or ((found.getD {}).api? name)) ∧
      (∀ existing ∈ (found.getD {}).apis,
        (∀ entry ∈ entries additions, entry.name ≠ existing.name) →
          existing ∈ (found'.getD {}).apis) ∧
      (found'.getD {}).names =
        (found.getD {}).names ++ Project.newNames (entries additions) (found.getD {}) ∧
      (found'.getD {}).apis =
        (found.getD {}).apis.map (fun existing =>
          (Project.latest? existing.name (entries additions)).getD existing) ++
        (Project.newNames (entries additions) (found.getD {})).filterMap
          (Project.latest? · (entries additions))) ∧
    (∀ addition ∈ additions,
      (addition.outcome = .ok () ↔ ∃ entry, addition.stored? = some entry) ∧
      (addition.outcome ≠ .ok () → addition.after = addition.before)) ∧
    ∀ front first between again back,
      additions = front ++ first :: (between ++ again :: back) → first.outcome = .ok () →
      again.options = first.options → again.document = first.document →
      (∀ own, first.stored? = some own → ∀ entry ∈ entries between, entry.name ≠ own.name) →
      Context.projectOfFile path again.after = Context.projectOfFile path again.before := by
  refine ⟨?_, fun addition member => ⟨addition.success_iff_exists_stored?,
    Addition.after_of_failure (history.isTold member)⟩, ?_⟩
  · obtain ⟨found', loads', same, _⟩ := projectOfFile_final history loads
    refine ⟨found', loads', ?_⟩
    rw [same]
    exact ⟨Project.nodup_names_putAll distinct _, fun name => Project.api?_putAll _ _ _,
      fun existing member => Project.mem_apis_putAll member, Project.names_putAll _ _,
      Project.apis_putAll _ _⟩
  · rintro front first between again back rfl success options document others
    exact projectOfFile_again history loads distinct success options document others

/-- The text of the configuration with that entry. -/
def documentConfiguration : String := Project.text ⟨[documentEntry]⟩

theorem isTidy_documentConfiguration : Project.IsTidy ⟨[documentEntry]⟩ := by
  intro entry member
  obtain rfl := List.mem_singleton.1 member
  exact ⟨by decide, Binary64.isProper_ofInt 30⟩

/-- An interface is added in an empty place, then an addition fails, then the interface is added
again in another environment. -/
theorem configuration_of_additions_petstore :
    let first := keyAddition [] none
    let failing := documentAddition [] "X-Key" (documentDesk (some documentConfiguration))
    let again := keyAddition [("KEY", "secret")] (some documentConfiguration)
    History first.path .absent [first, failing, again] again.after ∧
      first.outcome = .ok () ∧ failing.outcome ≠ .ok () ∧
      (∃ found, Context.projectOfFile first.path again.after = .ok found ∧
        (found.getD {}).names.Nodup) ∧
      failing.after = failing.before ∧
      Context.projectOfFile first.path again.after =
        Context.projectOfFile first.path again.before := by
  intro first failing again
  have nowhere : Context.projectOfFile first.path .absent = .ok none := rfl
  have success : first.outcome = .ok () :=
    success_of_found rfl (entry_keyAddition _ _) nowhere (by decide +kernel)
  have failed : failing.outcome = .error (.usage (.invalidHeader "X-Key")) := rfl
  have failure : failing.outcome ≠ .ok () := by rw [failed]; nofun
  have told : first.IsTold ∧ failing.IsTold := by
    unfold IsTold
    rw [success, failed]
    exact ⟨nofun, nofun⟩
  have written : first.after = failing.before := by
    obtain ⟨entry, found, made, here, left⟩ := after_of_success success
    obtain rfl := Except.ok.inj (made.symm.trans (entry_keyAddition _ _))
    obtain rfl : found = none := (Except.ok.inj here).symm
    exact left
  have toldAgain : again.IsTold :=
    have found : Context.projectOfFile again.path again.before = .ok (some ⟨[documentEntry]⟩) :=
      projectOfFile_text isTidy_documentConfiguration _
    isTold_of_found rfl (entry_keyAddition _ _) found
  have kept : failing.after = again.before := after_of_failure told.2 failure
  have history : History first.path .absent [first, failing, again] again.after := by
    have last : History first.path again.before [again] again.after := .cons rfl toldAgain (.nil _)
    rw [← kept] at last
    have rest : History first.path failing.before [failing, again] again.after :=
      .cons rfl told.2 last
    rw [← written] at rest
    exact .cons rfl told.1 rest
  obtain ⟨⟨found, loads, distinct, _⟩, unchanged, repeated⟩ :=
    configuration_of_additions history nowhere List.nodup_nil
  refine ⟨history, success, failure, ⟨found, loads, distinct⟩,
    (unchanged failing (by simp)).2 failure,
    repeated [] first [failing] again [] rfl success rfl (document_keyAddition _ _ _ _) ?_⟩
  intro own _ entry member
  have nothing : entries [failing] = [] :=
    List.filterMap_cons_none (stored?_of_failure failure)
  rw [nothing] at member
  cases member

end History

end ClientModel
