/-
This file derives the documentation of a schema from its annotations: a summary and a list of
constraints. The constraints always come in one order, each under its label, and a label appears
exactly if the schema declares what it is about.
-/

import ClientModel.Json.Writer
import ClientModel.Schema.Node

namespace ClientModel

/-! ### Records -/

/-- What is written about a type, a field or an operation. -/
structure Description where
  summary : Option String := none
  constraints : List String := []
  deriving DecidableEq, Repr, Inhabited

/-! ### Labels -/

/-- What a constraint is about, in the order in which constraints are listed. -/
inductive Label where
  | type
  | default
  | exampleValue
  | allowedValues
  | constantValue
  | format
  | minimum
  | maximum
  | minLength
  | maxLength
  | pattern
  | minItems
  | maxItems
  | nullable
  | readOnly
  | writeOnly
  deriving DecidableEq, Repr

/-- The place of a label in the order. -/
def Label.rank : Label → Nat
  | .type => 0
  | .default => 1
  | .exampleValue => 2
  | .allowedValues => 3
  | .constantValue => 4
  | .format => 5
  | .minimum => 6
  | .maximum => 7
  | .minLength => 8
  | .maxLength => 9
  | .pattern => 10
  | .minItems => 11
  | .maxItems => 12
  | .nullable => 13
  | .readOnly => 14
  | .writeOnly => 15

/-- A label as it is written. -/
def Label.text : Label → String
  | .type => "Type"
  | .default => "Default"
  | .exampleValue => "Example"
  | .allowedValues => "Allowed values"
  | .constantValue => "Constant value"
  | .format => "Format"
  | .minimum => "Minimum"
  | .maximum => "Maximum"
  | .minLength => "Min length"
  | .maxLength => "Max length"
  | .pattern => "Pattern"
  | .minItems => "Min items"
  | .maxItems => "Max items"
  | .nullable => "Nullable"
  | .readOnly => "Read-only"
  | .writeOnly => "Write-only"

/-! ### Constraints -/

/-- A number without a fraction is written without a point. -/
def Bound.text : Bound → String
  | .whole value => toString value
  | .real value =>
    match value.toInt? with
    | some integer => toString integer
    | none => value.display

/-- A value as documentation shows it. -/
def documentedText (value : Value) : String :=
  Json.write Json.documentationStyle value

/-- A text that is not empty. -/
def filledText? (text : Option String) : Option String :=
  text.filter fun characters => !characters.isEmpty

/-- The text of a flag that is set. -/
def flagText? (flag : Bool) : Option String :=
  if flag then some "true" else none

/-- The text under each label, in the order of the labels; nothing where the schema does not
declare what the label is about. The type is listed only where no description says more. -/
def labelledTexts (notes : Annotations) : List (Label × Option String) := [
  (.type, if notes.description.isSome then none else filledText? notes.typeTag),
  (.default, notes.defaultValue.map documentedText),
  (.exampleValue, notes.exampleValue.map documentedText),
  (.allowedValues, notes.enumValues.map fun values => ", ".intercalate (values.map documentedText)),
  (.constantValue, notes.constantValue.map documentedText),
  (.format, notes.format),
  (.minimum, notes.minimum.map Bound.text),
  (.maximum, notes.maximum.map Bound.text),
  (.minLength, notes.minLength.map toString),
  (.maxLength, notes.maxLength.map toString),
  (.pattern, filledText? notes.pattern),
  (.minItems, notes.minItems.map toString),
  (.maxItems, notes.maxItems.map toString),
  (.nullable, flagText? notes.nullable),
  (.readOnly, flagText? notes.readOnly),
  (.writeOnly, flagText? notes.writeOnly)]

/-- The constraints that a schema declares. -/
def constraintsOf (notes : Annotations) : List (Label × String) :=
  (labelledTexts notes).filterMap fun entry => entry.2.map (entry.1, ·)

/-- A constraint as it is written. -/
def constraintText (constraint : Label × String) : String :=
  s!"{constraint.1.text}: {constraint.2}"

/-! ### Descriptions -/

/-- The numbers among the annotations, in the order of the labels. -/
def boundValues (notes : Annotations) : List Value :=
  ([notes.minimum, notes.maximum].filterMap fun bound => bound.map Bound.value) ++
    [notes.minLength, notes.maxLength, notes.minItems, notes.maxItems].filterMap fun count =>
      count.map .int

/-- The values that documentation shows, in the order of the labels. -/
def documentedValues (notes : Annotations) : List Value :=
  notes.defaultValue.toList ++ notes.exampleValue.toList ++ notes.enumValues.getD [] ++
    notes.constantValue.toList ++ boundValues notes

/-- The first value among the annotations, in the order of the labels, that has no text. -/
def undocumentable? (notes : Annotations) : Option Json.Unwritable :=
  Json.unwritableItem? (documentedValues notes)

/-- The summary of a schema: its own description, else the name of the property it is for. -/
def summaryOf (notes : Annotations) (context : Option String) : Option String :=
  match notes.description with
  | some description => some description
  | none => (filledText? context).map (· ++ " property")

/-- The description of a schema, nothing where there is nothing to say. It fails on a value that
cannot be shown. -/
def describe (notes : Annotations) (context : Option String) :
    Except Json.Unwritable (Option Description) :=
  match undocumentable? notes with
  | some found => .error found
  | none =>
    let summary := summaryOf notes context
    let constraints := (constraintsOf notes).map constraintText
    if summary.isNone && constraints.isEmpty then .ok none
    else .ok (some ⟨summary, constraints⟩)

end ClientModel
