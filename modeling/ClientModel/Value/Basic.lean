/-
This file defines what a decoded document is made of: scalars, lists, and maps from scalars to
values in the order in which they were written. The readers of this library produce such values,
everything else consumes them. A text format that can name a part of a document can make a list or
a map a part of itself; such a value is a knot, which is opened when its parts are looked at.
-/

import ClientModel.Binary64.Basic
import ClientModel.Calendar
import ClientModel.Ordered

namespace ClientModel

/-! ### Scalars and values -/

/-- A value without parts. Only these can be keys of a map. -/
inductive Scalar where
  | null
  | bool (value : Bool)
  | int (value : Int)
  | float (value : Binary64)
  | string (value : String)
  | date (value : Date)
  | timestamp (value : Timestamp)
  | binary (bytes : List UInt8)
  deriving DecidableEq, Repr, Inhabited

/-- A value of a document. A set holds scalars that are all different; a pair is an entry of an
ordered list of entries. -/
inductive Value where
  | scalar (content : Scalar)
  | list (items : List Value)
  | map (entries : List (Scalar × Value))
  | set (members : List Scalar)
  | pair (first second : Value)
  /-- A list or a map that is a part of itself, with a name by which it is known inside. -/
  | knot (name : Nat) (body : Value)
  /-- The knot of a name, at a place inside it. -/
  | again (name : Nat) (isMap : Bool)
  deriving Repr, Inhabited

/-- The entries of a map. -/
abbrev Entries := List (Scalar × Value)

namespace Value

@[match_pattern] abbrev null : Value := .scalar .null
@[match_pattern] abbrev bool (value : Bool) : Value := .scalar (.bool value)
@[match_pattern] abbrev int (value : Int) : Value := .scalar (.int value)
@[match_pattern] abbrev float (value : Binary64) : Value := .scalar (.float value)
@[match_pattern] abbrev string (value : String) : Value := .scalar (.string value)

end Value

/-! ### Keys -/

namespace Scalar

/-- The number a scalar stands for among keys: a truth value counts as one or zero, and a float
without a fraction as its integer. -/
def integer? : Scalar → Option Int
  | .bool value => some (if value then 1 else 0)
  | .int value => some value
  | .float value => value.toInt?
  | _ => none

/-- Whether two scalars are the same key: numbers by their value whatever their kind, times by
their instant, everything else by its own kind and content. What is not a number is one key. -/
def sameKey : Scalar → Scalar → Bool
  | .null, .null => true
  | .string left, .string right => left == right
  | .date left, .date right => left == right
  | .timestamp left, .timestamp right => left.sameInstant right
  | .binary left, .binary right => left == right
  | .float left, .float right => left == right || left.sameValue right
  | left, right =>
    match left.integer?, right.integer? with
    | some number, some number' => number == number'
    | _, _ => false

/-- The kind of a scalar as messages name it. -/
def kindName : Scalar → String
  | .null => "NoneType"
  | .bool _ => "bool"
  | .int _ => "int"
  | .float _ => "float"
  | .string _ => "str"
  | .date _ => "date"
  | .timestamp _ => "datetime"
  | .binary _ => "bytes"

/-- A scalar that counts as something: not null, not false, not zero, not empty. -/
def isFilled : Scalar → Bool
  | .null => false
  | .bool value => value
  | .int value => value != 0
  | .float value => !value.isZero
  | .string value => !value.isEmpty
  | .binary bytes => !bytes.isEmpty
  | .date _ => true
  | .timestamp _ => true

end Scalar

/-! ### Entries of a map -/

namespace Entries

/-- The item under a text key. -/
def get? (key : String) : Entries → Option Value
  | [] => none
  | (.string key', item) :: rest => if key' == key then some item else get? key rest
  | _ :: rest => get? key rest

/-- The item under a text key, null where there is none. -/
def get (key : String) (entries : Entries) : Value :=
  (entries.get? key).getD .null

/-- Whether a text key is present. -/
def has (key : String) (entries : Entries) : Bool :=
  (entries.get? key).isSome

/-- Writes an entry; keys are compared as scalars of a document are. -/
def write (key : Scalar) (item : Value) (entries : Entries) : Entries :=
  Ordered.putBy Scalar.sameKey key item entries

/-- The map that a list of entries writes one after another. -/
def ofList (entries : List (Scalar × Value)) : Entries :=
  entries.foldl (fun written entry => Entries.write entry.1 entry.2 written) []

/-- What is found under a text key stands among the entries. -/
theorem mem_of_get? {key : String} {item : Value} {entries : Entries}
    (found : entries.get? key = some item) : (.string key, item) ∈ entries := by
  induction entries with
  | nil => cases found
  | cons entry rest inductionHypothesis =>
    obtain ⟨key', item'⟩ := entry
    cases key' with
    | string text =>
      by_cases same : text = key
      · simp only [get?, same, beq_self_eq_true, ↓reduceIte, Option.some.injEq] at found
        simp [same, found]
      · simp only [get?, beq_iff_eq, same, ↓reduceIte] at found
        exact List.mem_cons_of_mem _ (inductionHypothesis found)
    | null | bool _ | int _ | float _ | date _ | timestamp _ | binary _ =>
      exact List.mem_cons_of_mem _ (inductionHypothesis found)

end Entries

/-! ### Knots -/

namespace Value

mutual

/-- A value with a knot at every place that stands for it. -/
def tie (name : Nat) (whole : Value) : Value → Value
  | .list items => .list (tieItems name whole items)
  | .map entries => .map (tieEntries name whole entries)
  | .pair first second => .pair (tie name whole first) (tie name whole second)
  | .knot name' body =>
    if name' == name then .knot name' body else .knot name' (tie name whole body)
  | .again name' isMap => if name' == name then whole else .again name' isMap
  | .scalar content => .scalar content
  | .set members => .set members

/-- `tie` for the items of a list. -/
def tieItems (name : Nat) (whole : Value) : List Value → List Value
  | [] => []
  | item :: rest => tie name whole item :: tieItems name whole rest

/-- `tie` for the entries of a map. -/
def tieEntries (name : Nat) (whole : Value) : List (Scalar × Value) → List (Scalar × Value)
  | [] => []
  | (key, item) :: rest => (key, tie name whole item) :: tieEntries name whole rest

end

/-- A knot as the list or map that it is, with the knot itself at its places inside; any other
value as it is. -/
def opened : Value → Value
  | .knot name body => tie name (.knot name body) body
  | value => value

mutual

/-- Whether no knot is in a value. -/
def isUntied : Value → Bool
  | .scalar _ => true
  | .list items => areUntied items
  | .map entries => areAllUntied entries
  | .set _ => true
  | .pair first second => isUntied first && isUntied second
  | .knot _ _ => false
  | .again _ _ => false

/-- `isUntied` of all items. -/
def areUntied : List Value → Bool
  | [] => true
  | item :: rest => isUntied item && areUntied rest

/-- `isUntied` of the items of all entries. -/
def areAllUntied : List (Scalar × Value) → Bool
  | [] => true
  | (_, item) :: rest => isUntied item && areAllUntied rest

end

/-- A value without knots is opened already. -/
theorem opened_of_isUntied {value : Value} (untied : value.isUntied = true) :
    value.opened = value := by
  cases value <;> first | rfl | simp [isUntied] at untied

/-! ### Views of a value -/

/-- The kind of a value as messages name it. -/
def kindName : Value → String
  | .scalar content => content.kindName
  | .list _ => "list"
  | .map _ => "dict"
  | .set _ => "set"
  | .pair _ _ => "tuple"
  | .knot _ body => body.kindName
  | .again _ isMap => if isMap then "dict" else "list"

/-- A value that counts as something: not null, not false, not zero, not empty. -/
def isFilled : Value → Bool
  | .scalar content => content.isFilled
  | .list items => !items.isEmpty
  | .map entries => !entries.isEmpty
  | .set members => !members.isEmpty
  | .pair _ _ => true
  | .knot _ _ => true
  | .again _ _ => true

/-- The entries of a map. -/
def entries? (value : Value) : Option Entries :=
  match value.opened with
  | .map entries => some entries
  | _ => none

/-- The entries of a map, none for anything else. -/
def entriesOrEmpty (value : Value) : Entries := value.entries?.getD []

/-- The items of a list. -/
def items? (value : Value) : Option (List Value) :=
  match value.opened with
  | .list items => some items
  | _ => none

/-- The items of a list, none for anything else. -/
def itemsOrEmpty (value : Value) : List Value := value.items?.getD []

/-- A text. -/
def string? : Value → Option String
  | .string text => some text
  | _ => none

/-- A text that is not empty. -/
def filledString? : Value → Option String
  | .string text => if text.isEmpty then none else some text
  | _ => none

/-- Exactly the truth value true. -/
def isTrue : Value → Bool
  | .bool value => value
  | _ => false

/-- Exactly null. -/
def isNull : Value → Bool
  | .null => true
  | _ => false

end Value

end ClientModel
