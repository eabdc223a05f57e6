/-
This file says how decoding a document ends. Text that JSON or YAML refuses by its form is reported,
and so is a value that is no map; but text beyond the limits of JSON, a YAML scalar that is not what
its tag says, and YAML without end are defects. The main statement gives the exact condition under
which a text, the input or a file is a document or is reported.
-/

import ClientModel.Proofs.ConfigurationOutcome
import ClientModel.Proofs.YamlFaults

namespace ClientModel

namespace Decoding

/-! ### Formats -/

/-- Whether a text is read as YAML: with a hint at it, or without a hint if it is no JSON. -/
def ReadsYaml (hint : FormatHint) (text : String) : Prop :=
  hint = .yaml ∨ hint = .unknown ∧
    ∃ complaint position, Json.read text = .error (.malformed complaint position)

/-- Whether YAML takes a text, or refuses it by its form. -/
def IsSettledYaml (text : String) : Prop :=
  (∃ value, Yaml.read text = .ok value) ∨
    ∃ complaint, Yaml.read text = .error (.malformed complaint)

/-- Whether every format that is tried settles what a text is. -/
structure IsSettled (hint : FormatHint) (text : String) : Prop where
  json : hint ≠ .yaml → Json.IsWithinLimits text
  yaml : ReadsYaml hint text → IsSettledYaml text

/-- What can be wrong with a text that its formats do not settle. -/
inductive Unsettles (hint : FormatHint) (text : String) : Defect → Prop
  | longInteger (tried : hint ≠ .yaml) {digits : Nat} (long : Json.HasLongInteger text digits) :
    Unsettles hint text (.longInteger digits)
  | deepJson (tried : hint ≠ .yaml) (deep : Json.NestsTooDeep text) :
    Unsettles hint text .endless
  | scalar (tried : ReadsYaml hint text) {fault : Yaml.ScalarFault}
    (shows : Yaml.ShowsFault text fault) : Unsettles hint text (.scalar fault)
  | endlessYaml (tried : ReadsYaml hint text) (endless : Yaml.read text = .error .endless) :
    Unsettles hint text .endless

/-! ### Decoding -/

/-- A map, or a failure that is reported as one of the document. -/
def IsReported (outcome : Except Failure Value) : Prop :=
  Ends (·.entries?.isSome = true) (·.kind = .document) outcome

theorem isReported_requireMap (value : Value) : IsReported (requireMap value) := by
  unfold requireMap
  split
  · next isMap => exact isMap
  · rfl

theorem isReported_decodeYaml_iff (complaints : List String) (text : String) :
    IsReported (decodeYaml complaints text) ↔ IsSettledYaml text := by
  unfold decodeYaml IsSettledYaml
  cases Yaml.read text with
  | ok value => exact iff_of_true (isReported_requireMap value) (Or.inl ⟨value, rfl⟩)
  | error error =>
    cases error with
    | malformed complaint => exact iff_of_true rfl (Or.inr ⟨complaint, rfl⟩)
    | unfit fault => exact iff_of_false nofun (by simp)
    | endless => exact iff_of_false nofun (by simp)

theorem isReported_decodeJson_iff (text : String) (otherwise : String → Except Failure Value) :
    IsReported (decodeJson text otherwise) ↔
      Json.IsWithinLimits text ∧ ∀ complaint position,
        Json.read text = .error (.malformed complaint position) →
          IsReported (otherwise
            ((Json.Error.malformed complaint position).message text.toList)) := by
  rw [Json.isWithinLimits_iff]
  unfold decodeJson
  cases Json.read text with
  | ok value => exact iff_of_true (isReported_requireMap value) ⟨Or.inl ⟨value, rfl⟩, nofun⟩
  | error error =>
    cases error with
    | malformed complaint position =>
      refine ⟨fun reported => ⟨Or.inr ⟨complaint, position, rfl⟩, ?_⟩, fun both =>
        both.2 complaint position rfl⟩
      intro other place same
      cases same
      exact reported
    | longInteger digits => exact iff_of_false nofun (by simp)
    | tooDeep => exact iff_of_false nofun (by simp)

/-- Decoding gives a map or a report exactly where the formats settle what the text is. -/
theorem isReported_decode_iff (hint : FormatHint) (text : String) :
    IsReported (decode hint text) ↔ IsSettled hint text := by
  unfold decode
  cases hint with
  | json =>
    rw [isReported_decodeJson_iff]
    refine ⟨fun both => ⟨fun _ => both.1, ?_⟩, fun settled => ⟨settled.json nofun, ?_⟩⟩
    · rintro (same | ⟨same, _⟩) <;> cases same
    · exact fun _ _ _ => rfl
  | yaml =>
    dsimp only
    rw [isReported_decodeYaml_iff]
    exact ⟨fun settled => ⟨fun other => absurd rfl other, fun _ => settled⟩,
      fun settled => settled.yaml (Or.inl rfl)⟩
  | unknown =>
    rw [isReported_decodeJson_iff]
    constructor
    · rintro ⟨within, reported⟩
      refine ⟨fun _ => within, ?_⟩
      rintro (same | ⟨_, complaint, position, refused⟩)
      · cases same
      · exact (isReported_decodeYaml_iff _ _).1 (reported complaint position refused)
    · intro settled
      refine ⟨settled.json nofun, fun complaint position refused => ?_⟩
      exact (isReported_decodeYaml_iff _ _).2
        (settled.yaml (Or.inr ⟨rfl, complaint, position, refused⟩))

/-- Text that is read as YAML is decoded as YAML, whatever was tried before. -/
theorem exists_decode_eq_decodeYaml {hint : FormatHint} {text : String}
    (tried : ReadsYaml hint text) :
    ∃ complaints, decode hint text = decodeYaml complaints text := by
  rcases tried with rfl | ⟨rfl, complaint, position, refused⟩
  · exact ⟨[], rfl⟩
  · let detail := (Json.Error.malformed complaint position).message text.toList
    refine ⟨["JSON error: " ++ detail], ?_⟩
    rw [decode, decodeJson, refused]

/-- Text beyond the limits of JSON is no matter of the format that is tried next. -/
theorem decode_eq_decodeJson {hint : FormatHint} (tried : hint ≠ .yaml) (text : String) :
    ∃ otherwise, decode hint text = decodeJson text otherwise := by
  cases hint with
  | json => exact ⟨fun detail => .error (.document (.invalidJson detail)), rfl⟩
  | unknown => exact ⟨fun detail => decodeYaml ["JSON error: " ++ detail] text, rfl⟩
  | yaml => exact absurd rfl tried

/-- Text that its formats do not settle ends with a defect that says why. -/
theorem exists_unsettles {hint : FormatHint} {text : String} (unsettled : ¬IsSettled hint text) :
    ∃ cause, decode hint text = .error (.defect cause) ∧ Unsettles hint text cause := by
  by_cases beyond : hint ≠ .yaml ∧ ¬Json.IsWithinLimits text
  · obtain ⟨tried, beyond⟩ := beyond
    obtain ⟨otherwise, asJson⟩ := decode_eq_decodeJson tried text
    rw [asJson, decodeJson]
    cases found : Json.read text with
    | ok value => exact absurd ((Json.isWithinLimits_iff text).2 (Or.inl ⟨value, found⟩)) beyond
    | error error =>
      cases error with
      | malformed complaint position =>
        exact absurd ((Json.isWithinLimits_iff text).2 (Or.inr ⟨complaint, position, found⟩)) beyond
      | longInteger digits =>
        exact ⟨_, rfl, .longInteger tried ((Json.read_eq_longInteger_iff text digits).1 found)⟩
      | tooDeep => exact ⟨_, rfl, .deepJson tried ((Json.read_eq_tooDeep_iff text).1 found)⟩
  · have json (tried : hint ≠ .yaml) : Json.IsWithinLimits text :=
      not_not.1 fun other => beyond ⟨tried, other⟩
    have yaml : ReadsYaml hint text ∧ ¬IsSettledYaml text :=
      Classical.not_imp.1 fun settled => unsettled ⟨json, settled⟩
    obtain ⟨tried, unsettledYaml⟩ := yaml
    obtain ⟨complaints, asYaml⟩ := exists_decode_eq_decodeYaml tried
    rw [asYaml, decodeYaml]
    cases found : Yaml.read text with
    | ok value => exact absurd (Or.inl ⟨value, found⟩) unsettledYaml
    | error error =>
      cases error with
      | malformed complaint => exact absurd (Or.inr ⟨complaint, found⟩) unsettledYaml
      | unfit fault => exact ⟨_, rfl, .scalar tried (Yaml.showsFault_of_read found)⟩
      | endless => exact ⟨_, rfl, .endlessYaml tried found⟩

end Decoding

/-! ### Sources -/

open Decoding

/-- The input is a document or is reported where it is text that is blank, or that is settled. -/
theorem Source.isReported_documentOfInput_iff (text : String) :
    IsReported (documentOfInput text) ↔
      (Text.isBlankText text = false → IsSettled .unknown text) := by
  unfold documentOfInput
  cases Text.isBlankText text with
  | true => exact iff_of_true rfl nofun
  | false => exact (isReported_decode_iff .unknown text).trans ⟨fun settled _ => settled, (· rfl)⟩

/-- A file is a document or is reported, unless its name is too long to be followed or its text is
neither blank nor settled. -/
theorem Source.isReported_documentOfFile_iff (name : String) (content : FileContent) :
    IsReported (documentOfFile name content) ↔ content ≠ .overlong ∧
      ∀ text : String, content = .bytes text.toUTF8 →
        Text.isBlankText (Text.withUnifiedLineEnds text) = false →
          IsSettled (hint (Path.ofText name)) (Text.withUnifiedLineEnds text) := by
  unfold documentOfFile
  cases content with
  | absent | directory | refused _ => exact iff_of_true rfl ⟨nofun, nofun⟩
  | overlong => exact iff_of_false nofun fun both => both.1 rfl
  | bytes content =>
    rcases Text.readUtf8_cases content with ⟨text, rfl, read⟩ | ⟨noText, fault, refused⟩
    · dsimp only
      rw [read]
      dsimp only
      have only (other : String) (same : FileContent.bytes text.toUTF8 = .bytes other.toUTF8) :
          other = text := String.toByteArray_inj.1 (FileContent.bytes.inj same).symm
      cases blank : Text.isBlankText (Text.withUnifiedLineEnds text) with
      | true =>
        refine iff_of_true rfl ⟨nofun, fun other same visible => ?_⟩
        rw [only other same, blank] at visible
        cases visible
      | false =>
        rw [if_neg Bool.false_ne_true, isReported_decode_iff]
        refine ⟨fun settled => ⟨nofun, fun other same _ => ?_⟩, fun both => both.2 text rfl blank⟩
        rw [only other same]
        exact settled
    · dsimp only
      rw [refused]
      refine iff_of_true rfl ⟨nofun, fun text same => ?_⟩
      exact absurd (FileContent.bytes.inj same).symm (noText text)

theorem Action.run_input (desk : Desk) :
    input.run desk = (desk.input.mapError fun fault => .defect (.encoding fault),
      { desk with input := .ok "" }) := by
  show (ofExcept _).run _ = _
  rw [run_ofExcept]

namespace Context

theorem run_loadValue_input (context : Context) {source : String} (headers : Headers)
    (timeout : Binary64) (desk : Desk) (named : Source.ofText source = .input) :
    ((context.loadValue source headers timeout).run desk).1 =
      (desk.input.mapError fun fault => .defect (.encoding fault)) >>= Source.documentOfInput := by
  rw [loadValue, named]
  dsimp only
  rw [Action.run_bind, Action.run_input]
  cases desk.input with
  | ok text => exact congrArg Prod.fst (Action.run_ofExcept (Source.documentOfInput text) _)
  | error fault => rfl

theorem run_loadValue_file (context : Context) {source name : String} (headers : Headers)
    (timeout : Binary64) (desk : Desk) (named : Source.ofText source = .file name) :
    ((context.loadValue source headers timeout).run desk).1 =
      Source.documentOfFile name (desk.files.read desk.working (Path.ofText name)) := by
  rw [loadValue, named]
  show ((Action.ofExcept _).run _).1 = _
  rw [Action.run_ofExcept]

/-- Decoding gives a map or a report exactly where the formats that are tried settle what the text
is, and otherwise ends with a defect that says why. The same holds of the text of the input and of a
file: blank text is reported, bytes that are no text are reported of a file alone, and a name that
is too long to be followed is never. -/
theorem outcome_of_decoding (context : Context) (source : String) (headers : Headers)
    (timeout : Binary64) (desk : Desk) :
    (∀ hint text, (IsReported (decode hint text) ↔ IsSettled hint text) ∧
      (¬IsSettled hint text →
        ∃ cause, decode hint text = .error (.defect cause) ∧ Unsettles hint text cause)) ∧
      (Source.ofText source = .input →
        (IsReported ((context.loadValue source headers timeout).run desk).1 ↔
          ∃ text, desk.input = .ok text ∧
            (Text.isBlankText text = false → IsSettled .unknown text))) ∧
      ∀ name, Source.ofText source = .file name →
        (IsReported ((context.loadValue source headers timeout).run desk).1 ↔
          desk.files.read desk.working (Path.ofText name) ≠ .overlong ∧
            ∀ text : String,
              desk.files.read desk.working (Path.ofText name) = .bytes text.toUTF8 →
                Text.isBlankText (Text.withUnifiedLineEnds text) = false →
                  IsSettled (Source.hint (Path.ofText name)) (Text.withUnifiedLineEnds text)) := by
  refine ⟨fun hint text => ⟨isReported_decode_iff hint text, exists_unsettles⟩, fun named => ?_,
    fun name named => ?_⟩
  · rw [context.run_loadValue_input headers timeout desk named]
    cases desk.input with
    | ok text =>
      refine (Source.isReported_documentOfInput_iff text).trans ⟨fun settled =>
        ⟨text, rfl, settled⟩, ?_⟩
      rintro ⟨other, same, settled⟩
      exact Except.ok.inj same ▸ settled
    | error fault => exact iff_of_false nofun fun ⟨_, same, _⟩ => nomatch same
  · rw [context.run_loadValue_file headers timeout desk named]
    exact Source.isReported_documentOfFile_iff name _

/-- A desk with an empty map in the input and in a file. -/
def emptyMapDesk : Desk where
  working := []
  files := ⟨[(["api.json"], .file "\x7b\x7d".toUTF8)]⟩
  input := .ok "\x7b\x7d"
  network := fun _ => .timedOut

theorem outcome_of_decoding_emptyMapDesk :
    IsReported (((quietContext []).loadValue "-" [] ApiEntry.defaultTimeout).run emptyMapDesk).1 ∧
      IsReported (((quietContext []).loadValue "api.json" [] ApiEntry.defaultTimeout).run
        emptyMapDesk).1 := by
  have read : Json.read "\x7b\x7d" = .ok (.map []) := rfl
  have settled {hint : FormatHint} (other : hint ≠ .yaml) : IsSettled hint "\x7b\x7d" := by
    refine ⟨fun _ => Json.isWithinLimits_of_length_le (by decide), ?_⟩
    rintro (same | ⟨_, _, _, refused⟩)
    · exact absurd same other
    · cases read.symm.trans refused
  have input : Source.ofText "-" = .input := by decide
  have file : Source.ofText "api.json" = .file "api.json" := by decide
  have found : emptyMapDesk.files.read emptyMapDesk.working (Path.ofText "api.json") =
      .bytes "\x7b\x7d".toUTF8 := rfl
  have jsonHint : Source.hint (Path.ofText "api.json") = .json := by decide
  constructor
  · exact ((outcome_of_decoding (quietContext []) "-" [] ApiEntry.defaultTimeout
      emptyMapDesk).2.1 input).2 ⟨"\x7b\x7d", rfl, fun _ => settled nofun⟩
  · refine ((outcome_of_decoding (quietContext []) "api.json" [] ApiEntry.defaultTimeout
      emptyMapDesk).2.2 "api.json" file).2 ⟨?_, fun text same _ => ?_⟩
    · rw [found]
      nofun
    · rw [found] at same
      obtain rfl := String.toByteArray_inj.1 (FileContent.bytes.inj same)
      rw [jsonHint]
      exact settled nofun

end Context

/-- A YAML text with a date that is not in the calendar. -/
def monthlessText : String := "a: 2020-13-01"

/-- The defect that an outcome is. -/
def Decoding.defect? : Except Failure Value → Option Defect
  | .error (.defect cause) => some cause
  | _ => none

theorem Decoding.eq_of_defect? {outcome : Except Failure Value} {cause : Defect}
    (found : defect? outcome = some cause) : outcome = .error (.defect cause) := by
  unfold defect? at found
  split at found
  · cases found
    rfl
  · cases found

/-- A date that is not in the calendar is a defect with every hint but that of JSON. -/
theorem Decoding.decode_monthlessText :
    decode .yaml monthlessText = .error (.defect (.scalar (.calendar .month))) ∧
      decode .unknown monthlessText = .error (.defect (.scalar (.calendar .month))) :=
  ⟨eq_of_defect? (by decide +kernel), eq_of_defect? (by decide +kernel)⟩

end ClientModel
