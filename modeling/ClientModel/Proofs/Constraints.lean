/-
This file says which constraints document a schema. What a schema declares under a label depends on
the value of one keyword alone, and the type is listed only where the schema has no description.
The main statement is that the constraints of a schema over JSON values, of whatever shape, come in
the order of their labels, and that a constraint is among them exactly if the schema declares its
text under its label.
-/

import ClientModel.Proofs.JsonDocument

namespace ClientModel

/-! ### Labels and keywords -/

namespace Label

/-- The labels in their order. -/
def all : List Label := [
  .type, .default, .exampleValue, .allowedValues, .constantValue, .format, .minimum, .maximum,
  .minLength, .maxLength, .pattern, .minItems, .maxItems, .nullable, .readOnly, .writeOnly]

theorem pairwise_rank_all : all.Pairwise fun first second => first.rank < second.rank := by
  decide

theorem mem_all (label : Label) : label ∈ all := by
  cases label <;> decide

theorem injective_text : Function.Injective text := by
  have distinct : (all.map text).Nodup := by decide
  exact fun first second same =>
    List.inj_on_of_nodup_map distinct (mem_all first) (mem_all second) same

/-- The keyword of a schema that a label is about. -/
def keyword : Label → String
  | .type => "type"
  | .default => "default"
  | .exampleValue => "example"
  | .allowedValues => "enum"
  | .constantValue => "const"
  | .format => "format"
  | .minimum => "minimum"
  | .maximum => "maximum"
  | .minLength => "minLength"
  | .maxLength => "maxLength"
  | .pattern => "pattern"
  | .minItems => "minItems"
  | .maxItems => "maxItems"
  | .nullable => "nullable"
  | .readOnly => "readOnly"
  | .writeOnly => "writeOnly"

/-- A value has a text under a label. A default, an example and a constant always have one; every
other label asks for a value of its kind that is not empty. -/
def Shows (label : Label) (value : Value) (text : String) : Prop :=
  match label with
  | .type => text ≠ "" ∧ (value = .string text ∨
      ∃ tags, value = .list tags ∧ ",".intercalate (tags.map Value.text) = text)
  | .default | .exampleValue | .constantValue => documentedText value = text
  | .allowedValues => ∃ items, items ≠ [] ∧ value = .list items ∧
      ", ".intercalate (items.map documentedText) = text
  | .format => text ≠ "" ∧ value = .string text
  | .minimum | .maximum => ∃ bound : Bound, value = bound.value ∧ bound.text = text
  | .minLength | .maxLength | .minItems | .maxItems =>
    ∃ count : Int, value = .int count ∧ toString count = text
  | .pattern => value ≠ .null ∧ value ≠ .string "" ∧ value.text = text
  | .nullable | .readOnly | .writeOnly => value = .bool true ∧ text = "true"

end Label

/-- A schema has a description that is not empty. -/
def Entries.IsDescribed (entries : Entries) : Prop :=
  ∃ text, text ≠ "" ∧ entries.get? "description" = some (.string text)

/-- A schema declares a text under a label: the value of the keyword shows it, and no description
takes the place of the type. -/
def Entries.Declares (entries : Entries) (label : Label) (text : String) : Prop :=
  (∃ value, entries.get? label.keyword = some value ∧ label.Shows value text) ∧
    (label = .type → ¬entries.IsDescribed)

/-! ### Texts of values -/

/-- The text of a value under a label, as annotations keep it. -/
def Label.textOf? (label : Label) (value : Value) : Option String :=
  match label with
  | .type => filledText? (typeTagOf value)
  | .default | .exampleValue | .constantValue => some (documentedText value)
  | .allowedValues =>
    (filledItems? value).map fun items => ", ".intercalate (items.map documentedText)
  | .format => value.filledString?
  | .minimum | .maximum => (boundOf value).map Bound.text
  | .minLength | .maxLength | .minItems | .maxItems => (countOf value).map toString
  | .pattern => filledText? (patternOf value)
  | .nullable | .readOnly | .writeOnly => flagText? value.isTrue

/-- What is read of null as of a missing value is read where a value is present. -/
theorem Entries.read_get {Product : Type} {read : Value → Option Product}
    (missing : read .null = none) (entries : Entries) (keyword : String) :
    read (entries.get keyword) = (entries.get? keyword).bind read := by
  rw [Entries.get]
  cases entries.get? keyword with
  | none => exact missing
  | some value => rfl

/-- The labels with their texts, each read of one keyword. -/
theorem labelledTexts_ofEntries (entries : Entries) :
    labelledTexts (.ofEntries entries) = Label.all.map fun label => (label,
      if label = .type ∧ (entries.get "description").filledString?.isSome then none
      else (entries.get? label.keyword).bind label.textOf?) := by
  have absent (label : Label) (missing : label.textOf? .null = none) :
      (entries.get? label.keyword).bind label.textOf? =
        label.textOf? (entries.get label.keyword) :=
    (Entries.read_get missing entries label.keyword).symm
  have free (label : Label) (shown : label.textOf? = fun value => some (documentedText value)) :
      (entries.get? label.keyword).bind label.textOf? =
        (entries.get? label.keyword).map documentedText := by
    rw [shown]
    exact Option.map_eq_bind.symm
  simp only [Label.all, List.map_cons, List.map_nil, reduceCtorEq, false_and, if_false, true_and,
    absent .type rfl, free .default rfl, free .exampleValue rfl, absent .allowedValues rfl,
    free .constantValue rfl, absent .format rfl, absent .minimum rfl, absent .maximum rfl,
    absent .minLength rfl, absent .maxLength rfl, absent .pattern rfl, absent .minItems rfl,
    absent .maxItems rfl, absent .nullable rfl, absent .readOnly rfl, absent .writeOnly rfl]
  rfl

/-! ### Texts of numbers -/

theorem repr_ne_empty (number : Nat) : number.repr ≠ "" := by
  intro empty
  have digits := congrArg String.toList empty
  rw [Nat.toList_repr] at digits
  exact Nat.toDigits_ne_nil digits

theorem toString_int_ne_empty (number : Int) : toString number ≠ "" := by
  rw [show toString number = number.repr from rfl, Int.repr_eq_if]
  split
  · exact repr_ne_empty _
  · exact fun empty => repr_ne_empty _ (String.append_eq_empty_iff.1 empty).2

namespace Binary64

theorem Decimal.text_ne_nil (decimal : Decimal) : decimal.text ≠ [] := by
  rw [Decimal.text]
  exact List.append_ne_nil_of_right_ne_nil _ Nat.toDigits_ne_nil

theorem Decimal.write_ne_nil (layout : Layout) (decimal : Decimal) :
    decimal.write layout ≠ [] := by
  unfold Decimal.write
  dsimp only
  split
  · unfold Decimal.positional
    dsimp only
    split
    · exact List.cons_ne_nil _ _
    · split
      · rw [List.append_assoc]
        exact List.append_ne_nil_of_left_ne_nil decimal.text_ne_nil _
      · exact List.append_ne_nil_of_right_ne_nil _ (List.cons_ne_nil _ _)
  · unfold Decimal.exponential
    split
    · next none => exact absurd none decimal.text_ne_nil
    · exact List.cons_ne_nil _ _
    · exact List.cons_ne_nil _ _

theorem signed_ne_nil (negative : Bool) {text : List Char} (filled : text ≠ []) :
    signed negative text ≠ [] := by
  unfold signed
  split
  · exact List.cons_ne_nil _ _
  · exact filled

theorem display_ne_empty (number : Binary64) : number.display ≠ "" := by
  unfold display write
  split
  · decide
  · rw [Ne, String.ofList_eq_empty_iff]
    exact signed_ne_nil _ (by decide)
  · split
    · rw [Ne, String.ofList_eq_empty_iff]
      exact signed_ne_nil _ (by decide)
    · rw [Ne, String.ofList_eq_empty_iff]
      exact signed_ne_nil _ (Decimal.write_ne_nil _ _)

end Binary64

/-- A JSON value has a text that is not empty, unless it is the empty text itself. -/
theorem text_ne_empty {value : Value} (json : value.isJson = true) (filled : value ≠ .string "") :
    value.text ≠ "" := by
  have bracketed (front back : String) (ends : back ≠ "") : front ++ back ≠ "" := fun empty =>
    ends (String.append_eq_empty_iff.1 empty).2
  cases value with
  | scalar content =>
    cases content with
    | null => decide
    | bool answer => cases answer <;> decide
    | int number => exact toString_int_ne_empty number
    | float number => exact number.display_ne_empty
    | string text => exact fun empty => filled (congrArg Value.string empty)
    | date _ | timestamp _ | binary _ => cases json
  | list items => exact bracketed _ "]" (by decide)
  | map entries => exact bracketed _ "\x7d" (by decide)
  | set _ | pair _ _ | knot _ _ | again _ _ => cases json

/-! ### Values that show a text -/

theorem filledString?_eq_some_iff (value : Value) (text : String) :
    value.filledString? = some text ↔ text ≠ "" ∧ value = .string text := by
  unfold Value.filledString?
  split
  · next found =>
    by_cases empty : found = ""
    · simp [empty]
    · simpa [empty] using fun same => same ▸ empty
  · next other => simpa using fun _ same => other text same

theorem filledText?_eq_some_iff (text? : Option String) (text : String) :
    filledText? text? = some text ↔ text ≠ "" ∧ text? = some text := by
  rw [filledText?, Option.filter_eq_some_iff]
  simp [and_comm]

theorem boundOf_eq_some_iff (value : Value) (bound : Bound) :
    boundOf value = some bound ↔ value = bound.value := by
  constructor
  · exact fun found => (value_of_boundOf found).symm
  · rintro rfl
    cases bound <;> rfl

theorem countOf_eq_some_iff (value : Value) (count : Int) :
    countOf value = some count ↔ value = .int count := by
  constructor
  · exact fun found => (int_of_countOf found).symm
  · rintro rfl
    rfl

theorem flagText?_eq_some_iff (value : Value) (text : String) :
    flagText? value.isTrue = some text ↔ value = .bool true ∧ text = "true" := by
  have exactly : value.isTrue = true ↔ value = .bool true := by
    unfold Value.isTrue
    split
    · next answer => cases answer <;> simp
    · next other => simpa using fun same => other true same
  unfold flagText?
  split
  · next set => simp [exactly.1 set, eq_comm]
  · next unset => simp [mt exactly.2 unset]

theorem filledItems?_eq_some_iff {value : Value} (json : value.isJson = true)
    (items : List Value) :
    filledItems? value = some items ↔ items ≠ [] ∧ value = .list items := by
  rw [filledItems?, Value.items?, Value.opened_of_isJson json]
  cases value with
  | list others =>
    cases others with
    | nil => simp
    | cons first rest => simpa using fun same => same ▸ List.cons_ne_nil _ _
  | scalar _ | map _ | set _ | pair _ _ | knot _ _ | again _ _ => simp

theorem typeTagOf_eq_some_iff {value : Value} (json : value.isJson = true) {text : String}
    (filled : text ≠ "") :
    typeTagOf value = some text ↔ value = .string text ∨
      ∃ tags, value = .list tags ∧ ",".intercalate (tags.map Value.text) = text := by
  rw [typeTagOf, Value.items?, Value.opened_of_isJson json]
  cases value with
  | list tags => simp
  | scalar _ | map _ | set _ | pair _ _ | knot _ _ | again _ _ =>
    simp [filledString?_eq_some_iff, filled]

theorem patternOf_eq_some_iff (value : Value) (text : String) :
    patternOf value = some text ↔ value ≠ .null ∧ value ≠ .string "" ∧ value.text = text := by
  unfold patternOf
  split
  · simp
  · next found =>
    by_cases empty : found = ""
    · simp [empty]
    · simp [empty, Value.text, Scalar.text]
  · next absent other =>
    exact ⟨fun same => ⟨absent, other "", Option.some.inj same⟩, fun ⟨_, _, same⟩ =>
      congrArg some same⟩

/-- The text of a value under a label is what the value shows. -/
theorem textOf?_eq_some_iff {value : Value} (json : value.isJson = true) (label : Label)
    (text : String) : label.textOf? value = some text ↔ label.Shows value text := by
  cases label with
  | type =>
    rw [Label.textOf?, filledText?_eq_some_iff]
    exact and_congr_right fun filled => typeTagOf_eq_some_iff json filled
  | default | exampleValue | constantValue => exact Option.some_inj
  | allowedValues =>
    simp only [Label.textOf?, Option.map_eq_some_iff, filledItems?_eq_some_iff json, and_assoc]
    rfl
  | format => exact filledString?_eq_some_iff value text
  | minimum | maximum => simp only [Label.textOf?, Option.map_eq_some_iff, boundOf_eq_some_iff]; rfl
  | minLength | maxLength | minItems | maxItems =>
    simp only [Label.textOf?, Option.map_eq_some_iff, countOf_eq_some_iff]; rfl
  | pattern =>
    rw [Label.textOf?, filledText?_eq_some_iff, patternOf_eq_some_iff]
    refine and_iff_right_of_imp ?_
    rintro ⟨_, filled, rfl⟩
    exact text_ne_empty json filled
  | nullable | readOnly | writeOnly => exact flagText?_eq_some_iff value text

/-! ### Constraints of a schema -/

/-- The labels of constraints are some of the labels, in their order. -/
theorem sublist_labels_constraintsOf (notes : Annotations) :
    ((constraintsOf notes).map Prod.fst).Sublist Label.all := by
  have listed (entries : List (Label × Option String)) :
      ((entries.filterMap fun entry => entry.2.map (entry.1, ·)).map Prod.fst).Sublist
        (entries.map Prod.fst) := by
    induction entries with
    | nil => exact .slnil
    | cons entry rest inductionHypothesis =>
      obtain ⟨label, text?⟩ := entry
      cases text? with
      | none => exact inductionHypothesis.cons label
      | some text => exact inductionHypothesis.cons_cons label
  exact listed (labelledTexts notes)

/-- A description that counts is a text that is not empty. -/
theorem isSome_filledString?_description (entries : Entries) :
    (entries.get "description").filledString?.isSome = true ↔ entries.IsDescribed := by
  have read : (entries.get "description").filledString? =
      (entries.get? "description").bind Value.filledString? :=
    Entries.read_get rfl entries "description"
  rw [read, Option.isSome_iff_exists]
  refine exists_congr fun text => ?_
  rw [Option.bind_eq_some_iff]
  simp only [filledString?_eq_some_iff]
  constructor
  · rintro ⟨_, found, filled, rfl⟩
    exact ⟨filled, found⟩
  · exact fun ⟨filled, found⟩ => ⟨_, found, filled, rfl⟩

/-- A constraint is there exactly if the schema declares its text under its label. -/
theorem mem_constraintsOf_iff {entries : Entries} (json : Value.areAllJson entries = true)
    (label : Label) (text : String) :
    (label, text) ∈ constraintsOf (.ofEntries entries) ↔ entries.Declares label text := by
  have shown : (entries.get? label.keyword).bind label.textOf? = some text ↔
      ∃ value, entries.get? label.keyword = some value ∧ label.Shows value text := by
    rw [Option.bind_eq_some_iff]
    refine exists_congr fun value => and_congr_right fun found => ?_
    exact textOf?_eq_some_iff (Entries.isJson_of_get? json found) label text
  have listed : (label, text) ∈ constraintsOf (.ofEntries entries) ↔
      (if label = .type ∧ (entries.get "description").filledString?.isSome then none
        else (entries.get? label.keyword).bind label.textOf?) = some text := by
    rw [constraintsOf, labelledTexts_ofEntries, List.mem_filterMap]
    simp only [List.mem_map, Label.mem_all, true_and, exists_exists_eq_and, Option.map_eq_some_iff,
      Prod.mk.injEq, exists_eq_right_right]
    exact ⟨fun ⟨_, found, same⟩ => same ▸ found, fun found => ⟨label, found, rfl⟩⟩
  rw [listed, Entries.Declares, ← shown, ← isSome_filledString?_description]
  split
  · next replaced => simp [replaced]
  · next kept =>
    exact ⟨fun found => ⟨found, fun isType replaced => kept ⟨isType, replaced⟩⟩, And.left⟩

theorem toList_constraintText (constraint : Label × String) :
    (constraintText constraint).toList =
      constraint.1.text.toList ++ ':' :: ' ' :: constraint.2.toList := by
  show (constraint.1.text ++ ": " ++ constraint.2).toList = _
  rw [String.toList_append, String.toList_append, List.append_assoc]
  rfl

/-- A constraint tells its label and its text apart: no label has a colon. -/
theorem injective_constraintText : Function.Injective constraintText := by
  rintro ⟨label, text⟩ ⟨label', text'⟩ same
  have free (label : Label) : ∀ character ∈ label.text.toList, (character != ':') = true := by
    refine List.all_eq_true.1 ?_
    cases label <;> rfl
  have written := congrArg String.toList same
  rw [toList_constraintText, toList_constraintText] at written
  have front := congrArg (List.takeWhile (· != ':')) written
  rw [Text.takeWhile_append_stop (free label) (by decide),
    Text.takeWhile_append_stop (free label') (by decide)] at front
  obtain rfl : label = label' := Label.injective_text (String.toList_inj.1 front)
  have back := List.append_cancel_left written
  simp only [List.cons.injEq, true_and, String.toList_inj] at back
  rw [back]

/-- The constraints that documentation lists, none without a description. -/
def constraintsIn (description : Option Description) : List String :=
  description.elim [] Description.constraints

theorem constraintsIn_of_describe {notes : Annotations} {context : Option String}
    {description : Option Description} (described : describe notes context = .ok description) :
    constraintsIn description = (constraintsOf notes).map constraintText := by
  unfold describe at described
  split at described
  · cases described
  · dsimp only at described
    split at described
    · next silent =>
      cases Except.ok.inj described
      rw [Bool.and_eq_true, List.isEmpty_iff] at silent
      exact silent.2.symm
    · cases Except.ok.inj described
      rfl

/-- A schema over JSON values can be described, whatever its shape and for whatever property. Its
constraints come in the order of the labels, each label at most once, and they are those that the
schema declares. -/
theorem constraints_of_describe {entries : Entries} (json : Value.areAllJson entries = true)
    (context : Option String) :
    readSchema? (.map entries) = some (parseSchema (.map entries)) ∧
    ∃ description, describe (parseSchema (.map entries)).notes context = .ok description ∧
    ∃ constraints : List (Label × String),
      constraintsIn description = constraints.map constraintText ∧
      (constraints.map Prod.fst).Sublist Label.all ∧
      (constraints.map Prod.fst).Pairwise (fun first second => first.rank < second.rank) ∧
      ∀ label text,
        constraintText (label, text) ∈ constraintsIn description ↔ entries.Declares label text := by
  obtain ⟨description, described⟩ := succeeds_describe (isJson_ofEntries json) context
  rw [Assembly.result_ofExcept] at described
  have listed := constraintsIn_of_describe described
  rw [notes_parseSchema]
  have labels := sublist_labels_constraintsOf (.ofEntries entries)
  refine ⟨readSchema?_of_isUntied (Value.isUntied_of_isJson json), description, described,
    constraintsOf (.ofEntries entries), listed, labels, Label.pairwise_rank_all.sublist labels,
    fun label text => ?_⟩
  rw [listed, List.mem_map_of_injective injective_constraintText, mem_constraintsOf_iff json]

/-- A schema with keywords that count and keywords that do not: a description and a pattern that are
empty, a default that is null, a minimum without a fraction and a maximum that is no number. -/
def limitEntries : Entries :=
  [(.string "type", .list [.string "integer", .null]), (.string "description", .string ""),
    (.string "pattern", .string ""), (.string "default", .null), (.string "enum", .list []),
    (.string "minimum", .float (.finite false 1 0)), (.string "maximum", .bool true),
    (.string "nullable", .bool true), (.string "readOnly", .string "true")]

theorem constraints_of_describe_limitEntries :
    Value.areAllJson limitEntries = true ∧
    ∃ description, describe (parseSchema (.map limitEntries)).notes (some "limit") =
        .ok description ∧
      constraintsIn description =
        ["Type: integer,None", "Default: null", "Minimum: 1", "Nullable: true"] ∧
      ∀ label text, constraintText (label, text) ∈ constraintsIn description ↔
        limitEntries.Declares label text := by
  have json : Value.areAllJson limitEntries = true := by decide
  obtain ⟨_, description, described, _, _, _, _, declared⟩ :=
    constraints_of_describe json (some "limit")
  refine ⟨json, description, described, ?_, declared⟩
  rw [constraintsIn_of_describe described]
  decide +kernel

end ClientModel
