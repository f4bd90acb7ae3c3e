import Mathlib.Order.Bounds.Basic
import MarketQuery.Proofs.Rendering.Layout

/-!
# The grid of a table

A table for a reader is a grid: a line for the names and one for each row, and in each line a field
for each column, which is a text behind blanks.

* `Field`, `writeGrid`: fields, and the lines of a grid of them;
* `isGreatest_widest`: the greatest width among texts is the width of one of them;
* `Table.grid`: the grid of a table; `Table.fieldAt?_grid`: what stands at a place of it;
* `Table.LaidOut`: each name and each cell has its place, and each column its width;
* **`Table.render_laidOut`**: a table for a reader is such a grid.
-/

namespace MarketQuery

namespace Rendering

open Text

/-- A text behind blanks. -/
structure Field where
  blanks : Nat
  text : String

namespace Field

def write (f : Field) : String := .ofList (List.replicate f.blanks ' ') ++ f.text

/-- The field in which a text stands flush right. -/
def flushRight (columns : Nat) (s : String) : Field := ⟨columns - width s, s⟩

theorem write_flushRight (columns : Nat) (s : String) :
    (flushRight columns s).write = Rendering.flushRight columns s := rfl

end Field

/-- The lines of a grid, a blank between the fields of each. -/
def writeGrid (grid : List (List Field)) : String :=
  joinLines (grid.map fun line => " ".intercalate (line.map Field.write))

/-- The field at a place of a grid, if there is one. -/
def fieldAt? (grid : List (List Field)) (line index : Nat) : Option Field :=
  grid[line]?.bind (·[index]?)

theorem width_le_widest {texts : List String} {s : String} (h : s ∈ texts) :
    width s ≤ widest texts :=
  (foldl_max_le_iff.1 le_rfl).2 _ (List.mem_map_of_mem h)

theorem isGreatest_widest {texts : List String} (h : texts ≠ []) :
    IsGreatest {columns | ∃ s ∈ texts, width s = columns} (widest texts) := by
  refine ⟨?_, ?_⟩
  · -- If no text had that width, a lesser one would bound them all.
    by_contra hnone
    have hne : ∀ s ∈ texts, width s ≠ widest texts := fun s hs he => hnone ⟨s, hs, he⟩
    have hlt : ∀ s ∈ texts, width s < widest texts := fun s hs =>
      lt_of_le_of_ne (width_le_widest hs) (hne s hs)
    obtain ⟨s, hs⟩ := List.exists_mem_of_ne_nil texts h
    have hpos := hlt s hs
    have hle : widest texts ≤ widest texts - 1 := by
      refine foldl_max_le_iff.2 ⟨Nat.zero_le _, fun columns hc => ?_⟩
      obtain ⟨s, hs, rfl⟩ := List.mem_map.1 hc
      exact Nat.le_sub_one_of_lt (hlt s hs)
    omega
  · rintro columns ⟨s, hs, rfl⟩
    exact width_le_widest hs

end Rendering

open Rendering

namespace Table

variable {t : Table} {limit line index number : Nat}

/-- The fields of a table, line by line. -/
def grid (t : Table) (limit : Nat) : List (List Field) :=
  (t.fields limit).map (List.zipWith Field.flushRight (t.widths limit))

/-- The texts of a column, its name first. -/
def columnTexts (t : Table) (limit index : Nat) : List String :=
  (t.fields limit).map (·.getD index "")

/-- A grid shows a table. There is a line for the names and one for each row, with a field for each
column. In the first line stand the names, and behind it in each line the cells of its row, as their
columns are written. A column is as wide as the widest of its texts, and each of them stands behind
as many blanks as it is narrower, one of them behind none. -/
structure LaidOut (t : Table) (limit : Nat) (grid : List (List Field)) : Prop where
  lines : grid.length = t.rowCount + 1
  fields : ∀ line ∈ grid, line.length = t.columnCount
  name : ∀ index, (fieldAt? grid 0 index).map Field.text = t.columns[index]?
  cell : ∀ number index, (fieldAt? grid (number + 1) index).map Field.text =
    (t.rows[number]?.bind (·[index]?)).map (ColumnFormat.choose limit (t.column index)).write
  widest : ∀ index < t.columnCount, ∃ columns,
    IsGreatest {n | ∃ line f, fieldAt? grid line index = some f ∧ Text.width f.text = n} columns ∧
    (∀ line f, fieldAt? grid line index = some f → f.blanks + Text.width f.text = columns) ∧
    ∃ line f, fieldAt? grid line index = some f ∧ f.blanks = 0

/-! ## Texts by their places -/

theorem length_of_mem_fields {row : List String} (h : row ∈ t.fields limit) :
    row.length = t.columnCount := by
  rcases List.mem_cons.1 h with rfl | h
  · rfl
  · obtain ⟨cells, hcells, rfl⟩ := List.mem_map.1 h
    simp [formats, columnCount, t.width cells hcells]

theorem getElem?_writtenRow {row : List Cell} (hrow : row ∈ t.rows) (index : Nat) :
    (List.zipWith ColumnFormat.write (t.formats limit) row)[index]? =
      row[index]?.map (ColumnFormat.choose limit (t.column index)).write := by
  have hlength : row.length = t.columnCount := t.width row hrow
  rw [zipWith_formats hrow]
  by_cases h : index < t.columnCount
  · have hlt : index < row.length := hlength ▸ h
    simp [h, hlt]
  · have hge : row.length ≤ index := hlength ▸ Nat.le_of_not_lt h
    simp [h, hge]

theorem textAt_zero : (t.fields limit)[0]?.bind (·[index]?) = t.columns[index]? := rfl

theorem textAt_succ (t : Table) (limit number index : Nat) :
    (t.fields limit)[number + 1]?.bind (·[index]?) =
      (t.rows[number]?.bind (·[index]?)).map
        (ColumnFormat.choose limit (t.column index)).write := by
  rw [Table.fields, List.getElem?_cons_succ, List.getElem?_map]
  cases hrow : t.rows[number]? with
  | none => rfl
  | some row => exact getElem?_writtenRow (List.mem_of_getElem? hrow) index

/-! ## Fields by their places -/

theorem length_widths : (t.widths limit).length = t.columnCount := by
  simp [widths]

theorem fieldAt?_grid (h : index < t.columnCount) (line : Nat) :
    fieldAt? (t.grid limit) line index =
      ((t.fields limit)[line]?.bind (·[index]?)).map
        (Field.flushRight (widest (t.columnTexts limit index))) := by
  rw [fieldAt?, grid, List.getElem?_map]
  cases hrow : (t.fields limit)[line]? with
  | none => rfl
  | some row =>
    have hlt : index < row.length := length_of_mem_fields (List.mem_of_getElem? hrow) ▸ h
    simp [widths, columnTexts, h, hlt]

theorem fieldAt?_grid_eq_none (h : ¬ index < t.columnCount) (line : Nat) :
    fieldAt? (t.grid limit) line index = none := by
  rw [fieldAt?, grid, List.getElem?_map]
  cases hrow : (t.fields limit)[line]? with
  | none => rfl
  | some row =>
    have hge : row.length ≤ index :=
      length_of_mem_fields (List.mem_of_getElem? hrow) ▸ Nat.le_of_not_lt h
    simp [hge]

theorem text_fieldAt?_grid (t : Table) (limit line index : Nat) :
    (fieldAt? (t.grid limit) line index).map Field.text =
      (t.fields limit)[line]?.bind (·[index]?) := by
  by_cases h : index < t.columnCount
  · rw [fieldAt?_grid h, Option.map_map]
    exact Option.map_id'
  · rw [fieldAt?_grid_eq_none h]
    cases hrow : (t.fields limit)[line]? with
    | none => rfl
    | some row =>
      have hge : row.length ≤ index :=
        length_of_mem_fields (List.mem_of_getElem? hrow) ▸ Nat.le_of_not_lt h
      simp [hge]

/-! ## The grid of a table -/

/-- The texts of a column are those in its places. -/
theorem exists_field_iff (h : index < t.columnCount) {n : Nat} :
    (∃ line f, fieldAt? (t.grid limit) line index = some f ∧ Text.width f.text = n) ↔
      ∃ s ∈ t.columnTexts limit index, Text.width s = n := by
  constructor
  · rintro ⟨line, f, hf, rfl⟩
    rw [fieldAt?_grid h] at hf
    obtain ⟨s, hs, rfl⟩ := Option.map_eq_some_iff.1 hf
    obtain ⟨row, hrow, hs⟩ := Option.bind_eq_some_iff.1 hs
    exact ⟨s, List.mem_map.2 ⟨row, List.mem_of_getElem? hrow, by simp [hs]⟩, rfl⟩
  · rintro ⟨s, hs, rfl⟩
    obtain ⟨row, hrow, rfl⟩ := List.mem_map.1 hs
    obtain ⟨line, hline⟩ := List.mem_iff_getElem?.1 hrow
    have hlt : index < row.length := length_of_mem_fields hrow ▸ h
    refine ⟨line, .flushRight (widest (t.columnTexts limit index)) (row.getD index ""), ?_, rfl⟩
    rw [fieldAt?_grid h, hline]
    simp [hlt]

theorem laidOut_grid (t : Table) (limit : Nat) : t.LaidOut limit (t.grid limit) where
  lines := by simp [grid, Table.fields, rowCount]
  fields := by
    intro line hline
    obtain ⟨row, hrow, rfl⟩ := List.mem_map.1 hline
    rw [List.length_zipWith, length_widths, length_of_mem_fields hrow, min_self]
  name index := by rw [text_fieldAt?_grid, textAt_zero]
  cell number index := by rw [text_fieldAt?_grid, textAt_succ]
  widest index h := by
    have hne : t.columnTexts limit index ≠ [] := by simp [columnTexts, Table.fields]
    have hgreatest := isGreatest_widest hne
    have hblanks : ∀ line f, fieldAt? (t.grid limit) line index = some f →
        f.blanks + Text.width f.text = Rendering.widest (t.columnTexts limit index) := by
      intro line f hf
      have hle := hgreatest.2 ((exists_field_iff h).1 ⟨line, f, hf, rfl⟩)
      rw [fieldAt?_grid h] at hf
      obtain ⟨s, -, rfl⟩ := Option.map_eq_some_iff.1 hf
      exact Nat.sub_add_cancel hle
    simp only [exists_field_iff h]
    obtain ⟨line, f, hf, hwidth⟩ := (exists_field_iff h).2 hgreatest.1
    refine ⟨_, hgreatest, hblanks, line, f, hf, ?_⟩
    have := hblanks line f hf
    omega

theorem render_eq_writeGrid (h : 0 < t.rowCount) : t.render limit = writeGrid (t.grid limit) := by
  have hrows : t.isEmpty = false := List.isEmpty_eq_false_iff.2 (List.ne_nil_of_length_pos h)
  simp [render, hrows, Table.lines, grid, writeGrid, List.map_zipWith, Field.write_flushRight,
    Function.comp_def]

/-- **A table for a reader is a grid of its names and cells.** The lines are joined by breaks and
the fields of a line by blanks, no name and no cell is left out or out of place, and the columns are
flush right. -/
theorem render_laidOut (h : 0 < t.rowCount) (limit : Nat) :
    ∃ grid, t.render limit = writeGrid grid ∧ t.LaidOut limit grid :=
  ⟨t.grid limit, render_eq_writeGrid h, laidOut_grid t limit⟩

/-- Days with the numbers 9.21 and 9.2 and with integers, under names of wide characters. -/
def days : Table where
  columns := ["日期", "收盘", "成交量"]
  rows := [
    [.text "2024-01-02", .float (.finite false ⟨4621374387125768684, by decide⟩), .int 1158366],
    [.text "2024-01-03", .float (.finite false ⟨4621368757626234470, by decide⟩), .int 733610]]
  nodup := by decide
  width := by decide

theorem render_laidOut_days :
    0 < days.rowCount ∧
      days.render 30 = "      日期 收盘  成交量\n2024-01-02 9.21 1158366\n2024-01-03 9.20  733610" ∧
      ∃ grid, days.render 30 = writeGrid grid ∧ days.LaidOut 30 grid :=
  ⟨by decide, by decide +kernel, render_laidOut (by decide) 30⟩

end Table

end MarketQuery
