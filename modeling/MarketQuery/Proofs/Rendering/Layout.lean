import MarketQuery.Proofs.Traversal
import MarketQuery.Rendering

/-!
# Tables laid out by columns

A table can be laid out by looking its cells up, by the numbers of their columns and rows, without
a value for what is not there. As each row has a cell for each column, this never fails.

* `column?`, `writtenColumn?`, `render?`: cells and written cells by their places, and all of them
  in lines;
* `column?_eq_some`, `writtenColumn?_eq_some`: a column has a cell in each row;
* `getElem?_writtenColumn`, `mapM_getElem?_eq_some`: and a row has a written cell in each column;
* **`render?_eq_some`**: what is laid out by columns is the table for a reader.
-/

namespace MarketQuery

namespace Rendering

theorem foldl_max_le_iff {l : List Nat} {init bound : Nat} :
    l.foldl max init ≤ bound ↔ init ≤ bound ∧ ∀ n ∈ l, n ≤ bound := by
  induction l generalizing init with
  | nil => simp
  | cons n l ih => rw [List.foldl_cons, ih, Nat.max_le, List.forall_mem_cons, and_assoc]

end Rendering

namespace Table

open Rendering

variable (t : Table) (limit : Nat)

/-- The cells of a column, if each row has one. -/
def column? (index : Nat) : Option (List Cell) := t.rows.mapM (·[index]?)

/-- The written cells of a column, if each row has one. -/
def writtenColumn? (index : Nat) : Option (List String) :=
  (t.column? index).map fun cells => cells.map (ColumnFormat.choose limit cells).write

/-- A table for a reader, laid out by its columns: each is written as a whole, and then each row
takes its cell from each of them. There is none if a cell is looked up that is not there. -/
def render? : Option String :=
  if t.isEmpty then some (t.render limit)
  else do
    let columns ← (List.range t.columnCount).mapM (t.writtenColumn? limit)
    let widths := List.zipWith (fun name texts => widest (name :: texts)) t.columns columns
    let rows ← (List.range t.rowCount).mapM fun number => columns.mapM (·[number]?)
    return joinLines ((t.columns :: rows).map fun row =>
      " ".intercalate (List.zipWith flushRight widths row))

/-- The written cells of a column. -/
def writtenColumn (index : Nat) : List String :=
  (t.column index).map (ColumnFormat.choose limit (t.column index)).write

variable {t limit}

/-! ## Columns -/

theorem column?_eq_some {index : Nat} (h : index < t.columnCount) :
    t.column? index = some (t.column index) := by
  refine mapM_eq_some_map fun row hrow => ?_
  have hlt : index < row.length := t.width row hrow ▸ h
  simp [List.getElem?_eq_getElem hlt]

theorem writtenColumn?_eq_some {index : Nat} (h : index < t.columnCount) :
    t.writtenColumn? limit index = some (t.writtenColumn limit index) := by
  rw [writtenColumn?, column?_eq_some h]
  rfl

/-! ## Rows -/

/-- The written cells of a row. -/
theorem zipWith_formats {row : List Cell} (hrow : row ∈ t.rows) :
    List.zipWith ColumnFormat.write (t.formats limit) row =
      (List.range t.columnCount).map fun index =>
        (ColumnFormat.choose limit (t.column index)).write (row.getD index .null) := by
  have hlength : row.length = t.columnCount := t.width row hrow
  refine List.ext_getElem (by simp [formats, hlength]) fun index hi _ => ?_
  have hlt : index < row.length := by
    rw [List.length_zipWith] at hi
    omega
  simp [formats, List.getElem?_eq_getElem hlt]

theorem getElem?_writtenColumn {number index : Nat} (h : number < t.rowCount) :
    (t.writtenColumn limit index)[number]? =
      some ((ColumnFormat.choose limit (t.column index)).write
        (t.rows[number].getD index .null)) := by
  rw [writtenColumn, List.getElem?_map, column, List.getElem?_map, List.getElem?_eq_getElem h]
  rfl

theorem mapM_getElem?_eq_some {number : Nat} (h : number < t.rowCount) :
    ((List.range t.columnCount).map (t.writtenColumn limit)).mapM (·[number]?) =
      some (List.zipWith ColumnFormat.write (t.formats limit) t.rows[number]) := by
  rw [List.mapM_map, zipWith_formats (List.getElem_mem h)]
  exact mapM_eq_some_map fun index _ => getElem?_writtenColumn h

theorem mapM_rows_eq_some :
    ((List.range t.rowCount).mapM fun number =>
      ((List.range t.columnCount).map (t.writtenColumn limit)).mapM (·[number]?)) =
      some (t.rows.map (List.zipWith ColumnFormat.write (t.formats limit))) := by
  rw [mapM_eq_some_map (g := fun number =>
    List.zipWith ColumnFormat.write (t.formats limit) (t.rows.getD number [])) fun number hn => ?_]
  · refine congrArg some (List.ext_getElem (by simp [rowCount]) fun number _ hn => ?_)
    rw [List.length_map] at hn
    simp [List.getElem?_eq_getElem hn]
  · have hlt : number < t.rowCount := List.mem_range.1 hn
    rw [mapM_getElem?_eq_some hlt, List.getD_eq_getElem?_getD, List.getElem?_eq_getElem hlt]
    rfl

/-! ## All lines -/

/-- The width of a column is that of the widest of its name and its written cells. -/
theorem zipWith_widest :
    List.zipWith (fun name texts => widest (name :: texts)) t.columns
      ((List.range t.columnCount).map (t.writtenColumn limit)) = t.widths limit := by
  refine List.ext_getElem (by simp [widths, columnCount]) fun index hi _ => ?_
  have hlt : index < t.columns.length := by
    rw [List.length_zipWith] at hi
    omega
  have hfields : (t.fields limit).map (·.getD index "") =
      t.columns[index] :: t.writtenColumn limit index := by
    rw [fields, List.map_cons, List.map_map, writtenColumn, column, List.map_map]
    congr 1
    · simp [List.getElem?_eq_getElem hlt]
    · refine List.map_congr_left fun row hrow => ?_
      have hrange : index < t.columnCount := hlt
      rw [Function.comp_apply, zipWith_formats hrow]
      simp [hrange, column]
  simp only [widths, List.getElem_zipWith, List.getElem_map, List.getElem_range, hfields]

/-- **A table for a reader looks up no cell that is not there**, and leaves none out that is. -/
theorem render?_eq_some (t : Table) (limit : Nat) : t.render? limit = some (t.render limit) := by
  have hcolumns : (List.range t.columnCount).mapM (t.writtenColumn? limit) =
      some ((List.range t.columnCount).map (t.writtenColumn limit)) :=
    mapM_eq_some_map fun index h => writtenColumn?_eq_some (List.mem_range.1 h)
  unfold render? render
  split
  · rfl
  · rw [hcolumns]
    simp only [Option.bind_eq_bind, Option.bind_some, mapM_rows_eq_some, zipWith_widest]
    rfl

end Table

end MarketQuery
