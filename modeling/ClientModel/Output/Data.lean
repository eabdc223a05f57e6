/-
This file writes data: values as JSON text, records and tables as JSON text or as plain lines with
a tab between the cells of a row.
-/

import ClientModel.Json.Writer
import ClientModel.Output.Basic
import ClientModel.Value.Record

namespace ClientModel

/-! ### Plain lines -/

/-- The text of a cell: a list is written item by item, and null as nothing. -/
def cellText : Value → String
  | .list items => ", ".intercalate (items.map Value.text)
  | .null => ""
  | value => value.text

/-- A row as a line. -/
def rowLine (cells : List String) : String := "\t".intercalate cells

/-- A record: what its fields are called, and their values. -/
abbrev DataRecord := List (String × Value)

/-- The lines of a record: one for each field. -/
def recordLines (record : DataRecord) : List String :=
  record.map fun field => rowLine [field.1, cellText field.2]

/-- A table: the headers of its columns, and its rows. -/
structure DataTable where
  headers : List String
  rows : List (List Value)

namespace DataTable

/-- The lines of a table: one for the headers, if there are any, and one for each row. -/
def lines (table : DataTable) : List String :=
  (if table.headers.isEmpty then [] else [rowLine table.headers]) ++
    table.rows.map fun row => rowLine (row.map cellText)

/-- The record of a row: its cells under the headers of their columns. -/
def rowValue (headers : List String) (row : List Value) : Value :=
  .record (Ordered.ofList (headers.zip row))

/-- The value of a table: the records of its rows. -/
def value (table : DataTable) : Value := .list (table.rows.map (rowValue table.headers))

end DataTable

/-! ### What is written -/

/-- A value as JSON text. -/
def valueText (value : Value) : String := Json.write Json.dataStyle value ++ "\n"

namespace OutputSettings

/-- What is written for a record. -/
def dataRecordText (settings : OutputSettings) (record : DataRecord) : String :=
  if settings.format == .json then valueText (.record record)
  else textOfLines ((recordLines record).map String.toList)

/-- What is written for a table. -/
def tableText (settings : OutputSettings) (table : DataTable) : String :=
  if settings.format == .json then valueText table.value
  else textOfLines (table.lines.map String.toList)

end OutputSettings

end ClientModel
