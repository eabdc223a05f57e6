/-
This file says when what a plain run tells can be read back. The text of a type has a tab or a line
break only where a name in it has one, since a literal escapes them; every other text is written as
it is. The main statement is that what a command adds to the output can be read back exactly if none
of the texts that it shows of the document has a tab or a line break.
-/

import ClientModel.Proofs.Generation
import ClientModel.Proofs.Grouping
import ClientModel.Proofs.PlainLines
import ClientModel.Proofs.WrittenCharacters

namespace ClientModel

/-! ### Texts that fit -/

theorem fitsCell_of_le {text : String}
    (each : ∀ character ∈ text.toList, 0x20 ≤ character.toNat) : FitsCell text :=
  ⟨fun tab => absurd (each _ tab) (by decide), fun newline => absurd (each _ newline) (by decide)⟩

theorem fitsCell_toString (number : Int) : FitsCell (toString number) :=
  fitsCell_of_le fun _ member =>
    Json.le_toNat_of_isNumeralCharacter (Binary64.isNumeralCharacter_of_mem_toString member)

/-- Joined texts fit where each of them does. -/
theorem fitsCell_intercalate_iff {separator : String} (fits : FitsCell separator)
    (parts : List String) :
    FitsCell (separator.intercalate parts) ↔ ∀ part ∈ parts, FitsCell part := by
  unfold FitsCell
  rw [mem_toList_intercalate_iff fits.1, mem_toList_intercalate_iff fits.2]
  simp only [not_exists, not_and, forall_and]

theorem fitsCell_orDash_iff (text : String) : FitsCell (Context.orDash text) ↔ FitsCell text := by
  unfold Context.orDash
  split
  · next empty =>
    rw [String.isEmpty_iff.1 empty]
    decide
  · rfl

/-! ### Texts of types -/

namespace TypeExpr

mutual

/-- The names in the text of a type: those of declared types, and the accessors of fields. -/
def namesInText : TypeExpr → List String
  | .named name => [name]
  | .array items => items.namesInText
  | .mapping values => values.namesInText
  | .nullable inner => inner.namesInText
  | .union members => namesInMembers members
  | .intersection members => namesInMembers members
  | .object fields => namesInFields fields
  | .primitive _ | .literal _ | .unknown | .noContent => []

/-- The names in the texts of members. -/
def namesInMembers : List TypeExpr → List String
  | [] => []
  | member :: rest => member.namesInText ++ namesInMembers rest

/-- The names in the texts of fields. -/
def namesInFields : List (FieldLabel × TypeExpr) → List String
  | [] => []
  | (label, type) :: rest => label.identifier :: type.namesInText ++ namesInFields rest

end

section

variable {control : Char} (isControl : control.toNat < 0x20)

include isControl

theorem notMem_of_isControl (text : String) (free : Text.isControlFree text = true) :
    control ∉ text.toList := fun member =>
  absurd (Text.le_toNat_of_isControlFree text free member) (Nat.not_le_of_lt isControl)

/-- A control character between two words stands in what they enclose. -/
theorem mem_toList_enclosed_iff {front back : String}
    (words : Text.isControlFree front = true ∧ Text.isControlFree back = true) (text : String) :
    control ∈ (front ++ text ++ back).toList ↔ control ∈ text.toList := by
  rw [String.toList_append, String.toList_append, List.mem_append, List.mem_append,
    or_iff_left (notMem_of_isControl isControl back words.2),
    or_iff_right (notMem_of_isControl isControl front words.1)]

theorem mem_parenthesized_iff (text : String) :
    control ∈ (parenthesized text).toList ↔ control ∈ text.toList :=
  mem_toList_enclosed_iff isControl ⟨rfl, rfl⟩ text

theorem mem_arrayText_iff (text : String) :
    control ∈ (arrayText text).toList ↔ control ∈ text.toList := by
  rw [arrayText, String.toList_append, List.mem_append,
    or_iff_left (notMem_of_isControl isControl "[]" rfl)]
  split
  · exact mem_parenthesized_iff isControl text
  · rfl

theorem mem_partText_iff (type : TypeExpr) :
    control ∈ type.partText.toList ↔ control ∈ type.render.toList := by
  unfold partText
  split
  · exact mem_parenthesized_iff isControl _
  · rfl

theorem mem_fieldText_iff (label : FieldLabel) (type : String) :
    control ∈ (fieldText label type).toList ↔
      control ∈ label.identifier.toList ∨ control ∈ type.toList := by
  have mark : control ∉ (if label.optional then "?" else "").toList := by
    split <;> exact notMem_of_isControl isControl _ rfl
  have colon : control ∉ ": ".toList := notMem_of_isControl isControl ": " rfl
  rw [fieldText, String.toList_append, String.toList_append, String.toList_append, List.mem_append,
    List.mem_append, List.mem_append, or_iff_left colon, or_iff_left mark]

/-- A control character in joined parts of a type stands in a part. -/
theorem mem_toList_joined_iff {Part : Type} {separator : String}
    (word : Text.isControlFree separator = true) (write : Part → String)
    (parts : List Part) :
    control ∈ (separator.intercalate (parts.map write)).toList ↔
      ∃ part ∈ parts, control ∈ (write part).toList := by
  rw [mem_toList_intercalate_iff (notMem_of_isControl isControl separator word)]
  simp only [List.mem_map, exists_exists_and_eq_and]

end

mutual

/-- A control character in the text of a type stands in a name. -/
theorem mem_render_iff {control : Char} (isControl : control.toNat < 0x20) (type : TypeExpr) :
    control ∈ type.render.toList ↔ ∃ name ∈ type.namesInText, control ∈ name.toList := by
  match type with
  | .named name => simp [render, namesInText]
  | .primitive kind =>
    rw [render, namesInText]
    refine iff_of_false (notMem_of_isControl isControl kind.name ?_) (by simp)
    cases kind <;> rfl
  | .literal value =>
    rw [render, namesInText]
    refine iff_of_false (fun member => ?_) (by simp)
    exact absurd (Json.le_toNat_of_mem_write_literalStyle member) (Nat.not_le_of_lt isControl)
  | .array items =>
    rw [render, namesInText, mem_arrayText_iff isControl]
    exact mem_render_iff isControl items
  | .mapping values =>
    rw [render, namesInText, mem_toList_enclosed_iff isControl ⟨rfl, rfl⟩]
    exact mem_render_iff isControl values
  | .nullable inner =>
    rw [render, namesInText, String.toList_append, List.mem_append,
      or_iff_left (notMem_of_isControl isControl " | null" rfl)]
    exact mem_render_iff isControl inner
  | .union members =>
    rw [render, namesInText, renderMembers_eq_map, mem_toList_joined_iff isControl rfl]
    exact mem_members_iff isControl members
  | .intersection members =>
    rw [render, namesInText, renderParts_eq_map, mem_toList_joined_iff isControl rfl]
    simp only [mem_partText_iff isControl]
    exact mem_members_iff isControl members
  | .object fields =>
    rw [render, namesInText, renderFields_eq_map, mem_toList_enclosed_iff isControl ⟨rfl, rfl⟩,
      mem_toList_joined_iff isControl rfl]
    simp only [mem_fieldText_iff isControl]
    exact mem_fields_iff isControl fields
  | .unknown | .noContent =>
    rw [render, namesInText]
    exact iff_of_false (notMem_of_isControl isControl _ rfl) (by simp)

theorem mem_members_iff {control : Char} (isControl : control.toNat < 0x20)
    (members : List TypeExpr) :
    (∃ member ∈ members, control ∈ member.render.toList) ↔
      ∃ name ∈ namesInMembers members, control ∈ name.toList := by
  match members with
  | [] => simp [namesInMembers]
  | member :: rest =>
    simp only [List.exists_mem_cons_iff, namesInMembers, List.mem_append, or_and_right, exists_or,
      mem_render_iff isControl member, mem_members_iff isControl rest]

theorem mem_fields_iff {control : Char} (isControl : control.toNat < 0x20)
    (fields : List (FieldLabel × TypeExpr)) :
    (∃ field ∈ fields,
        control ∈ field.1.identifier.toList ∨ control ∈ field.2.render.toList) ↔
      ∃ name ∈ namesInFields fields, control ∈ name.toList := by
  match fields with
  | [] => simp [namesInFields]
  | (label, type) :: rest =>
    simp only [List.exists_mem_cons_iff, namesInFields, List.cons_append, List.mem_append,
      or_and_right, exists_or, mem_render_iff isControl type, mem_fields_iff isControl rest,
      or_assoc]

end

/-- The text of a type fits where the names in it do. -/
theorem fitsCell_render_iff (type : TypeExpr) :
    FitsCell type.render ↔ ∀ name ∈ type.namesInText, FitsCell name := by
  unfold FitsCell
  rw [mem_render_iff (by decide), mem_render_iff (by decide)]
  simp only [not_exists, not_and, forall_and]

end TypeExpr

/-! ### What is shown -/

/-- The texts of a document that are told about it. -/
def Document.shownTexts (document : Document) : List String :=
  [document.info.title, document.info.version, document.version,
    document.info.description.getD ""] ++ document.servers.map Server.url

/-- The texts of a declaration in its row. -/
def Declaration.shownTexts (declaration : Declaration) : List String :=
  [declaration.identifier, declaration.name] ++ declaration.type.namesInText ++
    declaration.supertypes

/-- The texts of a call in its row. -/
def Call.shownTexts (call : Call) : List String :=
  call.namespacePath ++ [call.methodName, call.urlTemplate] ++ call.responseType.namesInText

namespace Context

open ClientModel.Action

theorem cellText_string (text : String) : cellText (.string text) = text := rfl

theorem cellText_ofTexts (texts : List String) :
    cellText (.ofTexts texts) = ", ".intercalate texts := by
  show ", ".intercalate (List.map Value.text (texts.map Value.string)) = _
  rw [List.map_map]
  exact congrArg _ (List.map_id texts)

/-- The record of a document may be written in lines where the texts in it fit. -/
theorem fitsLines_documentRecord_iff (document : Document) :
    (documentRecord document).FitsLines ↔ ∀ text ∈ document.shownTexts, FitsCell text := by
  have names : ∀ name ∈ ["title", "version", "document_version", "description", "servers",
      "paths", "operations", "schemas"], FitsCell name := by decide
  have count (number : Nat) : FitsCell (cellText (.int number)) := fitsCell_toString number
  simp only [List.forall_mem_cons] at names
  simp only [DataRecord.FitsLines, documentRecord, Document.shownTexts, List.forall_mem_cons,
    List.forall_mem_append, cellText_string, cellText_ofTexts, fitsCell_orDash_iff, names, count,
    fitsCell_intercalate_iff (show FitsCell ", " by decide), List.not_mem_nil, false_imp_iff,
    implies_true, true_and, and_true, and_assoc]

theorem eq_render_of_typeText {type : TypeExpr} {text : String} (made : typeText type = .ok text) :
    text = type.render := by
  unfold typeText TypeExpr.render? at made
  split at made
  · cases made
  · exact (Except.ok.inj made).symm

/-- The row of a declaration may be written as a line where the texts in it fit. -/
theorem fitsLine_declarationRow_iff {declaration : Declaration} {row : List Value}
    (made : declarationRow declaration = .ok row) :
    FitsLine (row.map cellText) ↔ ∀ text ∈ declaration.shownTexts, FitsCell text := by
  obtain ⟨text, written, rest⟩ := (bind_eq_ok_iff _ _ _).1 made
  cases rest
  rw [eq_render_of_typeText written]
  show FitsLine [declaration.identifier, declaration.name, declaration.type.render,
    orDash (", ".intercalate declaration.supertypes)] ↔ _
  simp only [fitsLine_cons_iff, Declaration.shownTexts, List.forall_mem_cons,
    List.forall_mem_append, fitsCell_orDash_iff, TypeExpr.fitsCell_render_iff,
    fitsCell_intercalate_iff (show FitsCell ", " by decide), List.not_mem_nil, false_imp_iff,
    implies_true, and_true, and_assoc]

/-- The row of a call may be written as a line where the texts in it fit. -/
theorem fitsLine_callRow_iff {call : Call} {row : List Value} (made : callRow call = .ok row) :
    FitsLine (row.map cellText) ↔ ∀ text ∈ call.shownTexts, FitsCell text := by
  obtain ⟨text, written, rest⟩ := (bind_eq_ok_iff _ _ _).1 made
  cases rest
  rw [eq_render_of_typeText written]
  have verb : FitsCell call.verb.capitals := by cases call.verb <;> decide
  have mark : FitsCell (if call.deprecated then "Yes" else "") := by split <;> decide
  show FitsLine [call.qualifiedName, call.verb.capitals, call.urlTemplate,
    call.responseType.render, if call.deprecated then "Yes" else ""] ↔ _
  simp only [fitsLine_cons_iff, Call.shownTexts, Call.qualifiedName, List.forall_mem_cons,
    List.forall_mem_append, TypeExpr.fitsCell_render_iff, verb, mark,
    fitsCell_intercalate_iff (show FitsCell "." by decide), List.not_mem_nil, false_imp_iff,
    implies_true, true_and, and_true, and_assoc]

/-- A table of a row for each item may be written in lines where each row may. -/
theorem fitsLines_of_mapM {Item : Type} {rowOf : Item → Except Failure (List Value)}
    {shown : Item → List String}
    (each : ∀ item row, rowOf item = .ok row →
      (FitsLine (row.map cellText) ↔ ∀ text ∈ shown item, FitsCell text))
    {items : List Item} {rows : List (List Value)} (made : items.mapM rowOf = .ok rows)
    {headers : List String} (titled : headers ≠ [])
    (whole : ∀ header ∈ headers, '\n' ∉ header.toList) :
    (DataTable.mk headers rows).FitsLines ↔ ∀ text ∈ items.flatMap shown, FitsCell text := by
  constructor
  · intro fits text member
    obtain ⟨item, among, shows⟩ := List.mem_flatMap.1 member
    have rowsMade := (mapM_eq_ok_iff _ _ _).1 made
    obtain ⟨row, here, made⟩ := Placement.exists_mem_of_forall₂ rowsMade among
    exact (each item row made).1 (fits.rows row here) text shows
  · intro fits
    refine ⟨titled, whole, fun row member => ?_⟩
    obtain ⟨item, among, made⟩ := (mem_iff_of_mapM made row).1 member
    exact (each item row made).2 fun text shows =>
      fits text (List.mem_flatMap.2 ⟨item, among, shows⟩)

theorem fitsLines_declarationTable_iff {model : Model} {table : DataTable}
    (made : declarationTable model = .ok table) :
    table.FitsLines ↔
      ∀ text ∈ model.declarations.flatMap Declaration.shownTexts, FitsCell text := by
  obtain ⟨rows, listed, rest⟩ := (bind_eq_ok_iff _ _ _).1 made
  cases rest
  exact fitsLines_of_mapM (fun _ _ => fitsLine_declarationRow_iff) listed (by decide) (by decide)

theorem fitsLines_callTable_iff {model : Model} {table : DataTable}
    (made : callTable model = .ok table) :
    table.FitsLines ↔ ∀ text ∈ model.root.walk.flatMap Call.shownTexts, FitsCell text := by
  obtain ⟨rows, listed, rest⟩ := (bind_eq_ok_iff _ _ _).1 made
  cases rest
  exact fitsLines_of_mapM (fun _ _ => fitsLine_callRow_iff) listed (by decide) (by decide)

/-! ### What commands add to the output -/

section

variable {context : Context} {options : DocumentOptions} {desk after : Desk}

theorem takesOnlyInput_loadOptions (context : Context) (options : DocumentOptions) :
    (context.loadOptions options).TakesOnlyInput :=
  takesOnlyInput_bind (takesOnlyInput_ofExcept _) fun headers =>
    context.takesOnlyInput_loadDocument options.source headers options.timeout

/-- Where a command succeeds that begins by loading a document, it goes on with the document, and
nothing was put out before. -/
theorem exists_loaded {next : Document → Action Unit}
    (ran : (context.loadOptions options >>= next).run desk = (.ok (), after)) :
    ∃ document loaded, ((context.loadOptions options).run desk).1 = .ok document ∧
      loaded.output = desk.output ∧ (next document).run loaded = (.ok (), after) := by
  have left := takesOnlyInput_loadOptions context options desk
  rw [run_bind] at ran
  split at ran
  · next document loaded read =>
    rw [read] at left
    exact ⟨document, loaded, by rw [read], left.output, ran⟩
  · cases ran

/-- Putting a text out adds it to the output. -/
theorem output_of_run_putOut {text : String} (ran : (putOut text).run desk = (.ok (), after)) :
    after.output = desk.output ++ text := by
  obtain ⟨_, same, like⟩ := exists_run_putOut text desk
  rw [ran] at same
  cases same
  exact like.output

theorem output_of_run_info (ran : (context.info options).run desk = (.ok (), after)) :
    ∃ document, ((context.loadOptions options).run desk).1 = .ok document ∧
      after.output = desk.output ++ context.settings.dataRecordText (documentRecord document) := by
  obtain ⟨document, loaded, read, same, ran⟩ := exists_loaded ran
  exact ⟨document, read, same ▸ output_of_run_putOut ran⟩

theorem output_of_run_list {table : Model → Except Failure DataTable}
    (ran : (context.list table options).run desk = (.ok (), after)) :
    ∃ document model found, ((context.loadOptions options).run desk).1 = .ok document ∧
      (Assembly.modelOf document none).result = .ok model ∧ table model = .ok found ∧
      after.output = desk.output ++ context.settings.tableText found := by
  obtain ⟨document, loaded, read, same, ran⟩ := exists_loaded ran
  obtain ⟨noted, built, like⟩ := context.exists_run_buildModel document none loaded
  rw [run_bind, built] at ran
  cases made : (Assembly.modelOf document none).result with
  | error cause =>
    rw [made] at ran
    cases ran
  | ok model =>
    rw [made] at ran
    dsimp only [Except.mapError] at ran
    rw [run_bind, run_ofExcept] at ran
    cases shown : table model with
    | error cause =>
      rw [shown] at ran
      cases ran
    | ok found =>
      rw [shown] at ran
      refine ⟨document, model, found, read, made, shown, ?_⟩
      rw [← same, ← like.output]
      exact output_of_run_putOut ran

/-- A listing adds a text to the output from which its table can be read exactly if the texts that
are shown of the model fit in cells. -/
def AddsListing (context : Context) (options : DocumentOptions) (desk after : Desk)
    (table : Model → Except Failure DataTable) (shown : Model → List String) : Prop :=
  ∃ document model found text, ((context.loadOptions options).run desk).1 = .ok document ∧
    (Assembly.modelOf document none).result = .ok model ∧ table model = .ok found ∧
    after.output = desk.output ++ text ∧
    (found.IsReadFrom text ↔ ∀ name ∈ shown model, FitsCell name)

theorem addsListing_of_run (plain : context.settings.format = .plain)
    {table : Model → Except Failure DataTable} {shown : Model → List String}
    (fits : ∀ model found, table model = .ok found →
      (found.FitsLines ↔ ∀ name ∈ shown model, FitsCell name))
    (ran : (context.list table options).run desk = (.ok (), after)) :
    context.AddsListing options desk after table shown := by
  obtain ⟨document, model, found, read, built, listed, same⟩ := output_of_run_list ran
  refine ⟨document, model, found, _, read, built, listed, same, ?_⟩
  rw [OutputSettings.tableText_of_plain plain, DataTable.isReadFrom_iff]
  exact fits model found listed

end

/-- In a plain run a table can be read back exactly if it has headers without line breaks, a cell in
every row, and no tab and no line break in a cell. A record is one line for each field exactly if no
field has a line break, and can be read back exactly if none has a tab either. So a command adds a
text to the output that can be read back exactly if the texts shown of the document have neither. -/
theorem reading_of_plainOutput {context : Context} (plain : context.settings.format = .plain) :
    (∀ table : DataTable,
        table.IsReadFrom (context.settings.tableText table) ↔ table.FitsLines) ∧
      (∀ record : DataRecord,
        (linesOf (context.settings.dataRecordText record) = recordLines record ↔
            ∀ field ∈ record, '\n' ∉ field.1.toList ∧ '\n' ∉ (cellText field.2).toList) ∧
          (record.IsReadFrom (context.settings.dataRecordText record) ↔ record.FitsLines)) ∧
      ∀ options desk after,
        ((context.execute (.info options)).run desk = (.ok (), after) →
          ∃ document text, ((context.loadOptions options).run desk).1 = .ok document ∧
            after.output = desk.output ++ text ∧
            ((documentRecord document).IsReadFrom text ↔
              ∀ name ∈ document.shownTexts, FitsCell name)) ∧
        ((context.execute (.listTypes options)).run desk = (.ok (), after) →
          context.AddsListing options desk after declarationTable
            (·.declarations.flatMap Declaration.shownTexts)) ∧
        ((context.execute (.listOperations options)).run desk = (.ok (), after) →
          context.AddsListing options desk after callTable
            (·.root.walk.flatMap Call.shownTexts)) := by
  refine ⟨fun table => ?_, fun record => ?_, fun options desk after => ⟨fun ran => ?_, ?_, ?_⟩⟩
  · rw [OutputSettings.tableText_of_plain plain]
    exact table.isReadFrom_iff
  · rw [OutputSettings.dataRecordText_of_plain plain]
    exact ⟨DataRecord.linesOf_eq_recordLines_iff record, DataRecord.isReadFrom_iff record⟩
  · obtain ⟨document, read, same⟩ := output_of_run_info ran
    refine ⟨document, _, read, same, ?_⟩
    rw [OutputSettings.dataRecordText_of_plain plain, DataRecord.isReadFrom_iff]
    exact fitsLines_documentRecord_iff document
  · exact addsListing_of_run plain fun _ _ => fitsLines_declarationTable_iff
  · exact addsListing_of_run plain fun _ _ => fitsLines_callTable_iff

/-- How the document on the input is looked at. -/
def inputOptions : DocumentOptions := ⟨"-", [], ApiEntry.defaultTimeout⟩

/-- A desk with a document of a description and one schema on the input. -/
def notesDesk (description schema : String) : Desk where
  working := []
  files := ⟨[]⟩
  input := .ok ("\x7b\"swagger\":\"2.0\",\"info\":\x7b\"description\":\"" ++ description ++
    "\"\x7d,\"definitions\":\x7b\"" ++ schema ++ "\":\x7b\x7d\x7d\x7d")
  network := fun _ => .timedOut

theorem exists_run_of_toOption {action : Action Unit} {desk : Desk}
    (well : (action.run desk).1.toOption = some ()) : ∃ after, action.run desk = (.ok (), after) :=
  ⟨_, Prod.ext ((toOption_eq_some_iff _ _).1 well) rfl⟩

/-- With a description of one line and a schema of one word, what is told of a document and the list
of its types can both be read back. -/
theorem reading_of_plainOutput_notes :
    let desk := notesDesk "First." "pet_shop"
    (quietContext []).settings.format = .plain ∧
      (∃ document after,
        ((quietContext []).execute (.info inputOptions)).run desk = (.ok (), after) ∧
          document.shownTexts = ["Untitled API", "0.0.0", "2.0", "First."] ∧
          (documentRecord document).IsReadFrom after.output) ∧
      ∃ model found after,
        ((quietContext []).execute (.listTypes inputOptions)).run desk = (.ok (), after) ∧
          model.declarations.flatMap Declaration.shownTexts = ["PetShop", "pet_shop"] ∧
          declarationTable model = .ok found ∧ found.IsReadFrom after.output := by
  intro desk
  have plain : (quietContext []).settings.format = .plain := rfl
  obtain ⟨_, _, commands⟩ := reading_of_plainOutput plain
  obtain ⟨told, ranInfo⟩ : ∃ told,
      ((quietContext []).execute (.info inputOptions)).run desk = (.ok (), told) :=
    exists_run_of_toOption (by decide +kernel)
  obtain ⟨listed, ranList⟩ : ∃ listed,
      ((quietContext []).execute (.listTypes inputOptions)).run desk = (.ok (), listed) :=
    exists_run_of_toOption (by decide +kernel)
  have shown : (((quietContext []).loadOptions inputOptions).run desk).1.toOption.map
      (fun document => (document.shownTexts,
        (Assembly.modelOf document none).result.toOption.map
          (·.declarations.flatMap Declaration.shownTexts))) =
      some (["Untitled API", "0.0.0", "2.0", "First."], some ["PetShop", "pet_shop"]) := by
    decide +kernel
  have fits : (∀ name ∈ ["Untitled API", "0.0.0", "2.0", "First."], FitsCell name) ∧
      ∀ name ∈ ["PetShop", "pet_shop"], FitsCell name := by decide
  refine ⟨plain, ?_, ?_⟩
  · obtain ⟨document, text, read, same, readable⟩ := (commands _ _ _).1 ranInfo
    rw [read] at shown
    have texts : document.shownTexts = _ := congrArg Prod.fst (Option.some.inj shown)
    refine ⟨document, told, ranInfo, texts, ?_⟩
    rw [same, show desk.output = "" from rfl, String.empty_append]
    exact readable.2 (texts ▸ fits.1)
  · obtain ⟨document, model, found, text, read, built, made, same, readable⟩ :=
      (commands _ _ _).2.1 ranList
    rw [read] at shown
    have both := congrArg Prod.snd (Option.some.inj shown)
    dsimp only at both
    rw [built] at both
    have texts : model.declarations.flatMap Declaration.shownTexts = _ := Option.some.inj both
    refine ⟨model, found, listed, ranList, texts, made, ?_⟩
    rw [same, show desk.output = "" from rfl, String.empty_append]
    exact readable.2 fun name member => fits.2 name (texts ▸ member)

/-- A line break in the description makes nine lines of the eight fields of a record, and a tab in
the name of a schema makes six cells of the four in its row. -/
theorem linesOf_brokenNotes :
    let desk := notesDesk "First.\\nSecond." "pet\\tshop"
    let told := ((quietContext []).execute (.info inputOptions)).run desk
    let listed := ((quietContext []).execute (.listTypes inputOptions)).run desk
    told.1.toOption = some () ∧
      linesOf told.2.output = ["title\tUntitled API", "version\t0.0.0",
        "document_version\t2.0", "description\tFirst.", "Second.", "servers\t", "paths\t0",
        "operations\t0", "schemas\t1"] ∧
      (∀ document, linesOf told.2.output ≠ recordLines (documentRecord document)) ∧
      listed.1.toOption = some () ∧
      (linesOf listed.2.output).map cellsOf = [["Type", "Schema", "Definition", "Extends"],
        ["Pet", "shop", "pet", "shop", "unknown", "-"]] := by
  intro desk told listed
  have lines : told.1.toOption = some () ∧
      linesOf told.2.output = ["title\tUntitled API", "version\t0.0.0", "document_version\t2.0",
        "description\tFirst.", "Second.", "servers\t", "paths\t0", "operations\t0",
        "schemas\t1"] := by
    decide +kernel
  have rows : listed.1.toOption = some () ∧
      (linesOf listed.2.output).map cellsOf = [["Type", "Schema", "Definition", "Extends"],
        ["Pet", "shop", "pet", "shop", "unknown", "-"]] := by
    decide +kernel
  refine ⟨lines.1, lines.2, fun document same => ?_, rows⟩
  rw [lines.2] at same
  exact absurd (congrArg List.length same) (by simp [recordLines, documentRecord])

end Context

end ClientModel
