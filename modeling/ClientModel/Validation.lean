/-
This file checks values against records. A check either gives the checked thing or every issue it
found, in the order of the fields, each with the way that leads to it.
-/

import ClientModel.Binary64.Decimal
import ClientModel.Value.Display

namespace ClientModel

/-! ### Issues -/

/-- One step of the way to an issue. -/
inductive Step where
  | field (name : String)
  | item (position : Nat)
  deriving DecidableEq, Repr

/-- What is wrong with a value. -/
inductive Fault where
  /-- A field is not there. -/
  | missing
  /-- Not a text. -/
  | text
  /-- A text in bytes that are none. -/
  | encodedText
  /-- Not a list. -/
  | list
  /-- Not a map. -/
  | map
  /-- Not a map where a record is wanted. -/
  | record
  /-- Neither a number nor a text. -/
  | number
  /-- A text that writes no number. -/
  | numeral
  /-- Nothing that can be a truth value. -/
  | truth
  /-- A text or number that writes no truth value. -/
  | truthWord
  /-- A tagged record without a tag. -/
  | tagMissing
  /-- A tagged record with a tag that is none of those known. -/
  | tagUnknown
  /-- Not a map where a tagged record is wanted. -/
  | tagged
  /-- Not one of the words that may stand there. -/
  | choice
  deriving DecidableEq, Repr

/-- A fault and the way to it. -/
structure Issue where
  path : List Step
  fault : Fault
  deriving DecidableEq, Repr

/-- The outcome of a check. -/
abbrev Checked (Product : Type) := Except (List Issue) Product

namespace Checked

variable {Left Right Product : Type}

/-- A single issue where the check stands. -/
def fail (fault : Fault) : Checked Product := .error [⟨[], fault⟩]

/-- A check one step further on. -/
def within (step : Step) (check : Checked Product) : Checked Product :=
  check.mapError fun issues => issues.map fun issue => { issue with path := step :: issue.path }

/-- Two checks: both results, or the issues of both. -/
def both (left : Checked Left) (right : Checked Right) : Checked (Left × Right) :=
  match left, right with
  | .ok left, .ok right => .ok (left, right)
  | .error issues, .ok _ => .error issues
  | .ok _, .error issues => .error issues
  | .error issues, .error further => .error (issues ++ further)

/-- Checks in a list: all results, or all issues. -/
def all : List (Checked Product) → Checked (List Product)
  | [] => .ok []
  | check :: rest => (both check (all rest)).map fun found => found.1 :: found.2

end Checked

namespace Check

open Checked

variable {Product : Type}

/-! ### Simple values -/

/-- A text. -/
def text : Value → Checked String
  | .string text => .ok text
  | _ => fail .text

/-- A text or null. -/
def optionalText : Value → Checked (Option String)
  | .null => .ok none
  | .string text => .ok (some text)
  | _ => fail .text

/-- A number: an integer and a truth value count as one, and so does a text that writes one. -/
def number : Value → Checked Binary64
  | .float value => .ok value
  | .int value =>
    match Binary64.ofInt value with
    | .infinite _ => fail .number
    | rounded => .ok rounded
  | .bool value => .ok (Binary64.ofInt (if value then 1 else 0))
  | .string content =>
    match Binary64.readLoose? content.toList with
    | some value => .ok value
    | none => fail .numeral
  | _ => fail .number

/-- The words that count as truth values. -/
def truthWords : List (String × Bool) :=
  ["1", "on", "t", "true", "y", "yes"].map (·, true) ++
    ["0", "off", "f", "false", "n", "no"].map (·, false)

/-- Whether an integer fits into a word of sixty-four bits. -/
def isWord (value : Int) : Bool := -(Nat.pow 2 63) ≤ value && value < Nat.pow 2 63

/-- The truth value of an integer, if it is one or zero. One that fits into no word is no candidate
at all. -/
def truthOfInt (value : Int) : Checked Bool :=
  if !isWord value then fail .truth
  else if value == 0 then .ok false
  else if value == 1 then .ok true
  else fail .truthWord

/-- The integer that a number writes, if it is inside the words of sixty-four bits. -/
def innerInteger? (value : Binary64) : Option Int :=
  value.toInt?.filter fun integer => -(Nat.pow 2 63) < integer && integer < Nat.pow 2 63

/-- A truth value: a few words and the numbers one and zero count as one. -/
def truth : Value → Checked Bool
  | .bool value => .ok value
  | .int value => truthOfInt value
  | .float value =>
    match innerInteger? value with
    | some integer => truthOfInt integer
    | none => fail .truth
  | .string content =>
    match truthWords.find? fun word => word.1.toList == content.toList.map Char.toLower with
    | some word => .ok word.2
    | none => fail .truthWord
  | _ => fail .truth

/-! ### Collections -/

/-- The items of a list, each checked at its position. -/
def itemsFrom (check : Value → Checked Product) : Nat → List Value → List (Checked Product)
  | _, [] => []
  | position, item :: rest =>
    within (.item position) (check item) :: itemsFrom check (position + 1) rest

/-- A list whose items are checked. -/
def listOf (check : Value → Checked Product) : Value → Checked (List Product)
  | .list items => all (itemsFrom check 0 items)
  | _ => fail .list

/-- A map from texts to things that are checked. -/
def mapOf (check : Value → Checked Product) : Value → Checked (List (String × Product))
  | .map entries => all (entries.map fun entry =>
      within (.field entry.1.text) ((check entry.2).map fun item => (entry.1.text, item)))
  | _ => fail .map

/-! ### Fields -/

/-- A field that must be there. -/
def required (name : String) (check : Value → Checked Product) (fields : Entries) :
    Checked Product :=
  within (.field name) <|
    match fields.get? name with
    | some value => check value
    | none => fail .missing

/-- A field that has a value of its own where it is not there. -/
def withDefault (name : String) (fallback : Product) (check : Value → Checked Product)
    (fields : Entries) : Checked Product :=
  match fields.get? name with
  | some value => within (.field name) (check value)
  | none => .ok fallback

/-- A record, given the check of its fields. -/
def recordOf (check : Entries → Checked Product) : Value → Checked Product
  | .map fields => check fields
  | _ => fail .record

end Check

end ClientModel
