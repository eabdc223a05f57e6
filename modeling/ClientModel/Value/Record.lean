/-
This file gives the values that records are written as. A record is a map with a fixed list of
fields. A value that a document may hold freely is put into plain form first: dates become texts,
numbers that are not finite become null, and keys become texts. Bytes that write no text and
values that are a part of themselves have no plain form: they stay as they are, and `faulty?`
finds the first of them.
-/

import ClientModel.Text.Utf8
import ClientModel.Value.Display

namespace ClientModel

/-! ### Records -/

namespace Value

/-- A record of fields. -/
def record (fields : List (String × Value)) : Value :=
  .map (fields.map fun field => (.string field.1, field.2))

/-- A text that may be missing. -/
def ofText? (text : Option String) : Value :=
  match text with
  | none => .null
  | some text => .string text

/-- A list of texts. -/
def ofTexts (texts : List String) : Value := .list (texts.map .string)

/-- An integer that may be missing. -/
def ofInt? (number : Option Int) : Value :=
  match number with
  | none => .null
  | some number => .int number

end Value

/-! ### Plain form -/

/-- The text that bytes write; bytes that write none stay as they are. -/
def plainBytes (bytes : List UInt8) : Scalar :=
  match String.fromUTF8? (ByteArray.mk bytes.toArray) with
  | some text => .string text
  | none => .binary bytes

/-- A scalar in plain form. -/
def Scalar.plain : Scalar → Scalar
  | .float .notANumber => .null
  | .float (.infinite _) => .null
  | .date value => .string value.text
  | .timestamp value => .string value.recordText
  | .binary bytes => plainBytes bytes
  | other => other

/-- A key in plain form. -/
def Scalar.plainKey : Scalar → Scalar
  | .bool value => .string (if value then "true" else "false")
  | .float .notANumber => .string "None"
  | .float (.infinite _) => .string "None"
  | .timestamp value => .string value.recordText
  | .binary bytes => plainBytes bytes
  | other => .string other.text

namespace Value

mutual

/-- A value in plain form. -/
def plain : Value → Value
  | .scalar content => .scalar content.plain
  | .list items => .list (plainItems items)
  | .map entries => .map (plainEntries entries [])
  | .set members => .list (members.map fun member => .scalar member.plain)
  | .pair first second => .list [first.plain, second.plain]
  | .knot name body => .knot name body
  | .again name isMap => .again name isMap

/-- The items of a list in plain form. -/
def plainItems : List Value → List Value
  | [] => []
  | item :: rest => item.plain :: plainItems rest

/-- The entries of a map in plain form, written after those that are there already. -/
def plainEntries : List (Scalar × Value) → Entries → Entries
  | [], written => written
  | (key, item) :: rest, written =>
    plainEntries rest (Ordered.put key.plainKey item.plain written)

end

/-! ### Values without a plain form -/

/-- Why a value cannot be put into plain form. -/
inductive PlainFault where
  /-- Bytes are no text. -/
  | encoding (byte : UInt8) (position : Nat)
  /-- A list or a map is a part of itself. -/
  | circular
  deriving DecidableEq, Repr

/-- The text of the fault. -/
def PlainFault.message : PlainFault → String
  | .encoding byte position =>
    let code := String.ofList (Text.hexDigits 2 byte.toNat)
    s!"'utf-8' codec can't decode byte 0x{code} in position {position}: invalid utf-8"
  | .circular => "Circular reference detected (id repeated)"

/-- What is wrong with a scalar. -/
def scalarFaulty? : Scalar → Option PlainFault
  | .binary bytes =>
    (Text.faultFrom? 0 0 bytes).map fun fault => .encoding fault.first fault.position
  | _ => none

mutual

/-- The first part of a value, in its order, that has no plain form. -/
def faulty? : Value → Option PlainFault
  | .scalar content => scalarFaulty? content
  | .list items => faultyList? items
  | .map entries => faultyMap? entries
  | .set members => members.findSome? scalarFaulty?
  | .pair first second => (faulty? first).or (faulty? second)
  | .knot _ body => faulty? body
  | .again _ _ => some .circular

/-- `faulty?` of the items of a list. -/
def faultyList? : List Value → Option PlainFault
  | [] => none
  | item :: rest => (faulty? item).or (faultyList? rest)

/-- `faulty?` of the entries of a map: a key comes before its item. -/
def faultyMap? : List (Scalar × Value) → Option PlainFault
  | [] => none
  | (key, item) :: rest => (scalarFaulty? key).or ((faulty? item).or (faultyMap? rest))

end

/-- A record of values in plain form, where they have one. -/
def written? (record : Value) : Except PlainFault Value :=
  match faulty? record with
  | some fault => .error fault
  | none => .ok record

end Value

end ClientModel
