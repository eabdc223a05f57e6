/-
This file says when plain data can be read back: a text line by line, a line cell by cell. Neither a
tab nor a line break is escaped in a cell. The main statements are that a table can be read back
from its plain text exactly if it has headers without line breaks, every row has a cell, and no cell
has a tab or a line break, and a record exactly if no name and no value of its fields has one.
-/

import ClientModel.Output.Data
import ClientModel.Text.Split
import Mathlib.Data.List.Basic

namespace ClientModel

/-! ### Reading -/

/-- The lines of a text of which each ends with a line break. -/
def linesOf (text : String) : List String :=
  (Text.splitOn '\n' text.toList).dropLast.map String.ofList

/-- The cells of a line. -/
def cellsOf (line : String) : List String :=
  (Text.splitOn '\t' line.toList).map String.ofList

/-- A text that may stand in a cell. -/
def FitsCell (text : String) : Prop := '\t' ∉ text.toList ∧ '\n' ∉ text.toList

instance : DecidablePred FitsCell := fun text =>
  inferInstanceAs (Decidable ('\t' ∉ text.toList ∧ '\n' ∉ text.toList))

/-- Cells that may stand in a line. A line has at least one, which may be empty. -/
structure FitsLine (cells : List String) : Prop where
  filled : cells ≠ []
  each : ∀ cell ∈ cells, FitsCell cell

theorem fitsLine_cons_iff (first : String) (rest : List String) :
    FitsLine (first :: rest) ↔ ∀ cell ∈ first :: rest, FitsCell cell :=
  ⟨fun fits => fits.each, fun each => ⟨List.cons_ne_nil _ _, each⟩⟩

/-- A table is read from a text that has a line with its headers and behind it, for each row, a line
with the texts of its cells. -/
def DataTable.IsReadFrom (table : DataTable) (text : String) : Prop :=
  ∃ rest, linesOf text = rowLine table.headers :: rest ∧
    rest.map cellsOf = table.rows.map fun row => row.map cellText

/-- A record is read from a text that has, for each field, a line with what the field is called and
the text of its value. -/
def DataRecord.IsReadFrom (record : DataRecord) (text : String) : Prop :=
  (linesOf text).map cellsOf = record.map fun field => [field.1, cellText field.2]

/-! ### Lines -/

/-- A character that is not of the separator comes from a part. -/
theorem mem_toList_intercalate_iff {separator : String} {character : Char}
    (apart : character ∉ separator.toList) (parts : List String) :
    character ∈ (separator.intercalate parts).toList ↔ ∃ part ∈ parts, character ∈ part.toList := by
  induction parts with
  | nil => simp
  | cons first rest inductionHypothesis =>
    cases rest with
    | nil => simp
    | cons second rest =>
      rw [String.intercalate_cons_cons, String.toList_append, String.toList_append, List.mem_append,
        List.mem_append, inductionHypothesis, or_iff_left apart]
      exact (List.exists_mem_cons_iff (fun part : String => character ∈ part.toList) _ _).symm

theorem splitOn_textOfLines (lines : List (List Char)) :
    Text.splitOn '\n' (textOfLines lines).toList =
      lines.flatMap (Text.splitOn '\n') ++ [[]] := by
  rw [textOfLines, String.toList_ofList]
  induction lines with
  | nil => rfl
  | cons line rest inductionHypothesis =>
    rw [List.flatMap_cons, List.flatMap_cons, List.append_assoc, List.singleton_append,
      Text.splitOn_append_separator, inductionHypothesis, List.append_assoc]

/-- What is read are the lines that were written, each cut at its own line breaks. -/
theorem linesOf_textOfLines (lines : List (List Char)) :
    linesOf (textOfLines lines) = (lines.flatMap (Text.splitOn '\n')).map String.ofList := by
  rw [linesOf, splitOn_textOfLines, List.dropLast_concat]

theorem notMem_of_mem_linesOf {text line : String} (member : line ∈ linesOf text) :
    '\n' ∉ line.toList := by
  obtain ⟨part, among, rfl⟩ := List.mem_map.1 member
  rw [String.toList_ofList]
  exact Text.notMem_of_mem_splitOn (List.dropLast_subset _ among)

/-- Lines are read as they were written where none has a line break in it. -/
theorem linesOf_textOfLines_iff (lines : List String) :
    linesOf (textOfLines (lines.map String.toList)) = lines ↔
      ∀ line ∈ lines, '\n' ∉ line.toList := by
  constructor
  · intro same line member
    exact notMem_of_mem_linesOf (same.symm ▸ member)
  · intro whole
    rw [linesOf_textOfLines, List.flatMap_map]
    induction lines with
    | nil => rfl
    | cons line rest inductionHypothesis =>
      obtain ⟨here, others⟩ := List.forall_mem_cons.1 whole
      rw [List.flatMap_cons, Text.splitOn_of_not_mem here, List.singleton_append, List.map_cons,
        inductionHypothesis others, String.ofList_toList]

/-! ### Cells -/

theorem toList_rowLine (cells : List String) :
    (rowLine cells).toList = Text.joinWith '\t' (cells.map String.toList) := by
  rw [rowLine]
  induction cells with
  | nil => rfl
  | cons first rest inductionHypothesis =>
    cases rest with
    | nil => simp [Text.joinWith_singleton]
    | cons second rest =>
      rw [String.intercalate_cons_cons, String.toList_append, String.toList_append,
        inductionHypothesis, List.append_assoc]
      rfl

theorem newline_mem_rowLine_iff (cells : List String) :
    '\n' ∈ (rowLine cells).toList ↔ ∃ cell ∈ cells, '\n' ∈ cell.toList :=
  mem_toList_intercalate_iff (by decide) cells

/-- Cells are read from their line. -/
theorem cellsOf_rowLine {cells : List String} (fits : FitsLine cells) :
    cellsOf (rowLine cells) = cells := by
  have free : ∀ part ∈ cells.map String.toList, '\t' ∉ part :=
    List.forall_mem_map.2 fun cell member => (fits.each cell member).1
  have filled : cells.map String.toList ≠ [] := by simpa using fits.filled
  rw [cellsOf, toList_rowLine, Text.splitOn_joinWith filled free, List.map_map]
  exact (List.map_congr_left fun cell _ => String.ofList_toList).trans (List.map_id cells)

/-- A line is the line of its cells. -/
theorem rowLine_cellsOf (line : String) : rowLine (cellsOf line) = line := by
  have same : (cellsOf line).map String.toList = Text.splitOn '\t' line.toList := by
    rw [cellsOf, List.map_map]
    exact (List.map_congr_left fun part _ => String.toList_ofList).trans (List.map_id _)
  rw [← String.toList_inj, toList_rowLine, same, Text.joinWith_splitOn]

/-- The cells of a line that was read may stand in a line. -/
theorem fitsLine_cellsOf {line : String} (whole : '\n' ∉ line.toList) :
    FitsLine (cellsOf line) where
  filled same := Text.splitOn_ne_nil _ _ (List.map_eq_nil_iff.1 same)
  each cell member := by
    constructor
    · obtain ⟨part, among, rfl⟩ := List.mem_map.1 member
      rw [String.toList_ofList]
      exact Text.notMem_of_mem_splitOn among
    · intro inside
      rw [← rowLine_cellsOf line] at whole
      exact whole ((newline_mem_rowLine_iff _).2 ⟨cell, member, inside⟩)

/-! ### Rows -/

theorem newline_notMem_rowLine {cells : List String} (fits : FitsLine cells) :
    '\n' ∉ (rowLine cells).toList := by
  rw [newline_mem_rowLine_iff]
  rintro ⟨cell, member, inside⟩
  exact (fits.each cell member).2 inside

/-- The cells of lines are cells that may stand in lines. -/
theorem fitsLine_of_map_cellsOf {lines : List String} {rows : List (List String)}
    (whole : ∀ line ∈ lines, '\n' ∉ line.toList) (same : lines.map cellsOf = rows) :
    ∀ row ∈ rows, FitsLine row := by
  rw [← same]
  exact List.forall_mem_map.2 fun line member => fitsLine_cellsOf (whole line member)

theorem map_cellsOf_rowLine {rows : List (List String)} (fits : ∀ row ∈ rows, FitsLine row) :
    (rows.map rowLine).map cellsOf = rows := by
  rw [List.map_map]
  exact (List.map_congr_left fun row member => cellsOf_rowLine (fits row member)).trans
    (List.map_id rows)

/-- Rows are read from their lines exactly if their cells may stand in lines. -/
theorem map_cellsOf_linesOf_iff (rows : List (List String)) :
    (linesOf (textOfLines ((rows.map rowLine).map String.toList))).map cellsOf = rows ↔
      ∀ row ∈ rows, FitsLine row := by
  constructor
  · exact fitsLine_of_map_cellsOf fun _ => notMem_of_mem_linesOf
  · intro fits
    have whole : ∀ line ∈ rows.map rowLine, '\n' ∉ line.toList :=
      List.forall_mem_map.2 fun row member => newline_notMem_rowLine (fits row member)
    rw [(linesOf_textOfLines_iff _).2 whole, map_cellsOf_rowLine fits]

/-! ### Tables -/

namespace DataTable

/-- A table that may be written in lines: it has headers, and its rows may stand in lines. -/
structure FitsLines (table : DataTable) : Prop where
  titled : table.headers ≠ []
  headers : ∀ header ∈ table.headers, '\n' ∉ header.toList
  rows : ∀ row ∈ table.rows, FitsLine (row.map cellText)

/-- The lines of a table with headers are those of the headers and of the rows. -/
theorem lines_eq {table : DataTable} (titled : table.headers ≠ []) :
    table.lines = rowLine table.headers :: (table.rows.map (·.map cellText)).map rowLine := by
  rw [lines, if_neg (by simpa using titled), List.map_map]
  rfl

/-- A table is read from its plain text exactly if its headers and cells fit. -/
theorem isReadFrom_iff (table : DataTable) :
    table.IsReadFrom (textOfLines (table.lines.map String.toList)) ↔ table.FitsLines := by
  constructor
  · rintro ⟨rest, same, cells⟩
    have whole : ∀ line ∈ rest, '\n' ∉ line.toList := fun line member =>
      notMem_of_mem_linesOf (same ▸ List.mem_cons_of_mem _ member)
    have fits := fitsLine_of_map_cellsOf whole cells
    refine ⟨fun untitled => ?_, fun header member inside => ?_, fun row member => ?_⟩
    · -- Without headers there is a line less than there should be.
      have only : table.lines = (table.rows.map (·.map cellText)).map rowLine := by
        rw [lines, untitled, List.map_map]
        rfl
      have read := (map_cellsOf_linesOf_iff _).2 fits
      rw [← only, same, List.map_cons, cells] at read
      exact absurd (congrArg List.length read) (by simp)
    · have first : '\n' ∉ (rowLine table.headers).toList :=
        notMem_of_mem_linesOf (same ▸ List.mem_cons_self)
      exact first ((newline_mem_rowLine_iff _).2 ⟨header, member, inside⟩)
    · exact fits _ (List.mem_map_of_mem member)
  · intro fits
    have rows : ∀ row ∈ table.rows.map (·.map cellText), FitsLine row :=
      List.forall_mem_map.2 fits.rows
    have first : '\n' ∉ (rowLine table.headers).toList := by
      rw [newline_mem_rowLine_iff]
      rintro ⟨header, member, inside⟩
      exact fits.headers header member inside
    have others : ∀ line ∈ (table.rows.map (·.map cellText)).map rowLine, '\n' ∉ line.toList :=
      List.forall_mem_map.2 fun row member => newline_notMem_rowLine (rows row member)
    refine ⟨_, ?_, map_cellsOf_rowLine rows⟩
    rw [lines_eq fits.titled]
    exact (linesOf_textOfLines_iff _).2 (List.forall_mem_cons.2 ⟨first, others⟩)

end DataTable

/-! ### Records -/

namespace DataRecord

/-- A record that may be written in lines: its fields may stand in lines. -/
def FitsLines (record : DataRecord) : Prop :=
  ∀ field ∈ record, FitsCell field.1 ∧ FitsCell (cellText field.2)

theorem recordLines_eq (record : DataRecord) :
    recordLines record = (record.map fun field => [field.1, cellText field.2]).map rowLine := by
  rw [recordLines, List.map_map]
  rfl

/-- A record is read from its plain text exactly if the names and values of its fields fit. -/
theorem isReadFrom_iff (record : DataRecord) :
    record.IsReadFrom (textOfLines ((recordLines record).map String.toList)) ↔
      record.FitsLines := by
  rw [IsReadFrom, recordLines_eq, map_cellsOf_linesOf_iff, List.forall_mem_map]
  refine forall₂_congr fun field _ => ?_
  rw [fitsLine_cons_iff, List.forall_mem_cons, List.forall_mem_singleton]

/-- A record is written in one line for each field exactly if no name and no value of a field has a
line break in it. -/
theorem linesOf_eq_recordLines_iff (record : DataRecord) :
    linesOf (textOfLines ((recordLines record).map String.toList)) = recordLines record ↔
      ∀ field ∈ record, '\n' ∉ field.1.toList ∧ '\n' ∉ (cellText field.2).toList := by
  rw [linesOf_textOfLines_iff, recordLines, List.forall_mem_map]
  refine forall₂_congr fun field _ => ?_
  rw [newline_mem_rowLine_iff]
  simp [not_or]

end DataRecord

namespace OutputSettings

variable {settings : OutputSettings} (plain : settings.format = .plain)

include plain

theorem tableText_of_plain (table : DataTable) :
    settings.tableText table = textOfLines (table.lines.map String.toList) := by
  rw [tableText, plain]
  rfl

theorem dataRecordText_of_plain (record : DataRecord) :
    settings.dataRecordText record = textOfLines ((recordLines record).map String.toList) := by
  rw [dataRecordText, plain]
  rfl

end OutputSettings

end ClientModel
