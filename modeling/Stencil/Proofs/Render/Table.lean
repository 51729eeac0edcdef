/-
# What tables show

A table has one row for each entry of the list that it reads and one cell in each row for each
column, whatever the entries are. The list is the value under the identifier of the section, or
else under the key of old, and a value of another type in either place leaves the table without
rows. A cell shows what its entry has under the key of the column, and nothing if it has nothing
there or is no object. So the rows are settled by the values under the keys of the columns.
-/

import Mathlib.Data.List.Forall2
import Stencil.Proofs.Render.Showable
import Stencil.Proofs.Render.Yields

namespace Stencil.Render

variable {readsLegacyRows : Bool} {s : TemplateSection} {data other : Record}
variable {columns : List Column} {source : Value} {rows : List (List String)}

/-- The value that a table reads its rows from. A value under the identifier of the section
counts, of whatever type it is, and hides the one under the key of old. -/
inductive ReadsRows (readsLegacyRows : Bool) (s : TemplateSection) (data : Record) : Value → Prop
  | own (given : data.value s.id ≠ .null) : ReadsRows readsLegacyRows s data (data.value s.id)
  | legacy (missing : data.value s.id = .null) (reads : readsLegacyRows = true)
      (given : data.value legacyRowsKey ≠ .null) :
      ReadsRows readsLegacyRows s data (data.value legacyRowsKey)
  | nothing (missing : data.value s.id = .null)
      (noLegacy : readsLegacyRows = true → data.value legacyRowsKey = .null) :
      ReadsRows readsLegacyRows s data (.list [])

/-- The value that a cell shows. -/
def cellValue (row : Value) (column : Column) : Value :=
  row.record?.elim .null fun record => record.value column.key

/-- The text of an entry in a column: that of its value there, and the empty one if it has none
or is no object. -/
def cellText (entry : Value) (column : Column) : String :=
  match entry with
  | .object entries =>
    match entries.lookup column.key with
    | none | some .null => ""
    | some v => v.displayText
  | _ => ""

/-- The rows of a table with some columns, for the value that they are read from. -/
structure Tabulates (columns : List Column) (source : Value) (rows : List (List String)) :
    Prop where
  length_eq : ∀ entries, source = .list entries → rows.length = entries.length
  eq_nil : (∀ entries, source ≠ .list entries) → rows = []
  width_eq : ∀ row ∈ rows, row.length = columns.length
  cell_eq : ∀ entries, source = .list entries → ∀ (i j : Nat) entry column,
    entries[i]? = some entry → columns[j]? = some column →
      ∃ row, rows[i]? = some row ∧ row[j]? = some (cellText entry column)

/-- The value that the rows are read from is the one that a table goes to. -/
theorem readsRows_iff : ReadsRows readsLegacyRows s data source ↔
    source = (rowSource readsLegacyRows s data).1 := by
  have notNull {v : Value} (given : v ≠ .null) : v.isNull = false :=
    Bool.eq_false_iff.mpr fun null => given (Value.isNull_iff.mp null)
  constructor
  · intro reads
    cases reads with
    | own given => simp [rowSource, notNull given]
    | legacy missing reads given => simp [rowSource, missing, Value.isNull, reads]
    | nothing missing noLegacy =>
        cases reads : readsLegacyRows with
        | false => simp [rowSource, missing, Value.isNull]
        | true => simp [rowSource, missing, Value.isNull, noLegacy reads]
  · rintro rfl
    by_cases missing : data.value s.id = .null
    · by_cases legacy : readsLegacyRows = true ∧ data.value legacyRowsKey ≠ .null
      · obtain ⟨reads, given⟩ := legacy
        simpa [rowSource, missing, Value.isNull, reads, notNull given] using
          ReadsRows.legacy missing reads given
      · have noLegacy (reads : readsLegacyRows = true) : data.value legacyRowsKey = .null :=
          not_not.mp fun given => legacy ⟨reads, given⟩
        have nothing := ReadsRows.nothing missing noLegacy
        cases reads : readsLegacyRows with
        | false => simpa [rowSource, missing, Value.isNull, reads] using nothing
        | true => simpa [rowSource, missing, Value.isNull, reads, noLegacy reads] using nothing
    · simpa [rowSource, notNull missing] using ReadsRows.own missing

/-- The text of a cell is that of the value that it shows. -/
theorem cellText_eq (entry : Value) (column : Column) :
    cellText entry column = (cellValue entry column).displayText := by
  cases entry with
  | object entries =>
      show cellText (.object entries) column =
        ((entries.lookup column.key).getD .null).displayText
      rw [cellText]
      split <;> rename_i held <;> rw [held] <;> rfl
  | _ => rfl

/-- A cell that has a text has that of its entry in its column. -/
theorem eq_of_cell {entry : Value} {column : Column} {text : String}
    (done : cell entry column = .ok text) : text = cellText entry column := by
  rw [cellText_eq]
  cases held : entry.record? with
  | none =>
      rw [cell, held] at done
      rw [cellValue, held]
      exact (Except.ok.inj done).symm
  | some record =>
      simp only [cell, held] at done
      rw [cellValue, held]
      exact Value.eq_of_display done

theorem eq_of_tableRows (done : tableRows source columns = .ok rows) :
    rows = source.items.map fun entry => columns.map (cellText entry) :=
  eq_map_of_mapM_eq_ok (fun _ _ made => eq_map_of_mapM_eq_ok (fun _ _ => eq_of_cell) made) done

/-- Rows that are made entry by entry and column by column are those of the table. -/
theorem tabulates_map (columns : List Column) (source : Value) :
    Tabulates columns source (source.items.map fun entry => columns.map (cellText entry)) where
  length_eq := by
    rintro entries rfl
    exact List.length_map _
  eq_nil noList := by
    cases source with
    | list entries => exact absurd rfl (noList entries)
    | _ => rfl
  width_eq := by
    intro row mem
    obtain ⟨entry, -, rfl⟩ := List.mem_map.mp mem
    exact List.length_map _
  cell_eq := by
    rintro entries rfl i j entry column entryAt columnAt
    refine ⟨columns.map (cellText entry), ?_, ?_⟩
    · rw [List.getElem?_map, Value.items, entryAt, Option.map_some]
    · rw [List.getElem?_map, columnAt, Option.map_some]

/-- Entries with the same values in the columns make the same rows. -/
theorem map_cellText_congr {entries others : List Value}
    (alike : List.Forall₂ (fun entry other => ∀ column ∈ columns,
      cellValue entry column = cellValue other column) entries others) :
    (entries.map fun entry => columns.map (cellText entry)) =
      others.map fun entry => columns.map (cellText entry) := by
  induction alike with
  | nil => rfl
  | cons same _ ih =>
      rw [List.map_cons, List.map_cons, ih]
      congr 1
      refine List.map_congr_left fun column mem => ?_
      rw [cellText_eq, cellText_eq, same column mem]

/-- A table with columns has a node for every record that can be shown. Its header has the
labels of the columns, and its rows are those of the value that it reads them from. Two records
whose values to read from have as many entries, with the same values under the keys of the
columns, make the same rows. -/
theorem render_table_tabulates (readsLegacyRows : Bool) (columns : s.columnList ≠ [])
    (showable : data.IsShowable) :
    ∃ source node rows, ReadsRows readsLegacyRows s data source ∧
      ((Renderer.table readsLegacyRows).render s data).result = .ok (some node) ∧
      node.headerRow = some (s.columnList.map Column.label) ∧ node.rows = some rows ∧
      Tabulates s.columnList source rows ∧
      ∀ other : Record, other.IsShowable →
        ∀ otherSource, ReadsRows readsLegacyRows s other otherSource →
          List.Forall₂ (fun entry other => ∀ column ∈ s.columnList,
            cellValue entry column = cellValue other column) source.items otherSource.items →
          ∃ otherNode, ((Renderer.table readsLegacyRows).render s other).result =
            .ok (some otherNode) ∧ otherNode.rows = some rows := by
  have renders {record : Record} (showable : record.IsShowable) :
      ∃ node, ((Renderer.table readsLegacyRows).render s record).result = .ok (some node) ∧
        node.headerRow = some (s.columnList.map Column.label) ∧
        node.rows = some ((rowSource readsLegacyRows s record).1.items.map fun entry =>
          s.columnList.map (cellText entry)) := by
    have hasResult : HasResult ((Renderer.table readsLegacyRows).render s record).result :=
      Renderer.hasResult_render.mpr fun v => Renderer.isShowable_of_mem_shownValues showable
    obtain ⟨node?, done⟩ := hasResult
    rcases Renderer.yields_of_render done with ⟨missing, -⟩ | ⟨-, title, rows, -, filled, rfl⟩
    · exact absurd missing columns
    · exact ⟨_, done, rfl, congrArg some (eq_of_tableRows filled)⟩
  obtain ⟨node, done, header, rows⟩ := renders showable
  refine ⟨_, node, _, readsRows_iff.mpr rfl, done, header, rows, tabulates_map _ _, ?_⟩
  intro other otherShowable otherSource reads alike
  obtain ⟨otherNode, otherDone, -, otherRows⟩ := renders otherShowable
  rw [readsRows_iff.mp reads] at alike
  exact ⟨otherNode, otherDone, by rw [otherRows, map_cellText_congr alike]⟩

/-- Two columns share a key, and the list has an entry without it, one that is null and one that
is no object. None is lost, and the rows under the key of old are not read. -/
theorem render_table_tabulates_mixed :
    let s : TemplateSection :=
      { id := "items", kindName := "table"
        columns := some
          [{ id := "a", key := "item", label := "Item" }, { id := "b", key := "count", label := "No." },
           { id := "c", key := "item", label := "Item" }] }
    let data : Record :=
      ⟨[("tableData", .list [.object [("item", .text "old")]]),
        ("items", .list [.object [("item", .text "pen"), ("count", .int 2)],
          .object [("count", .null), ("price", .int 9)], .null, .text "ink"])]⟩
    s.columnList ≠ [] ∧ data.IsShowable ∧ ∃ source node, ReadsRows true s data source ∧
      ((Renderer.table true).render s data).result = .ok (some node) ∧
      node.headerRow = some ["Item", "No.", "Item"] ∧
      Tabulates s.columnList source
        [["pen", "2", "pen"], ["", "", ""], ["", "", ""], ["", "", ""]] := by
  intro s data
  have columns : s.columnList ≠ [] := nofun
  have showable : data.IsShowable := by decide +kernel
  obtain ⟨source, node, rows, reads, done, header, found, tabulates, -⟩ :=
    render_table_tabulates true columns showable
  have computed : (((Renderer.table true).render s data).result.toOption.bind id).bind Node.rows =
      some [["pen", "2", "pen"], ["", "", ""], ["", "", ""], ["", "", ""]] := by decide +kernel
  rw [done] at computed
  obtain rfl := Option.some.inj (found.symm.trans computed)
  exact ⟨columns, showable, source, node, reads, done, header, tabulates⟩

end Stencil.Render
