import Mathlib.Data.List.FinRange
import Mathlib.Data.List.Perm.Basic
import MarketQuery.Proofs.Rendering.Layout

/-!
# The order of rows

How a column is written and how wide it is are matters of which cells it has, not of where they
stand. So rows in another order give the same lines in that order.

* `choose_eq_of_perm`, `widest_eq_of_perm`: cells and texts in another order;
* `Table.getElem?_formats`, `Table.getElem?_widths`: the format and the width of a column, from its
  name and its cells;
* `Table.permute`: a table with its rows in another order; `Table.perm_column_permute`: its columns
  have the same cells;
* **`Table.render_permute`**: its lines are the same, in that order.
-/

namespace MarketQuery

namespace Rendering

/-! ## Cells and texts in another order -/

/-- The notation and the count of decimals are found by questions to all cells and by a maximum over
them, so their order does not matter. -/
theorem choose_eq_of_perm {cells cells' : List Cell} (h : cells.Perm cells') (limit : Nat) :
    ColumnFormat.choose limit cells = ColumnFormat.choose limit cells' := by
  have hnumbers : (cells.filterMap Cell.toBinary64?).Perm (cells'.filterMap Cell.toBinary64?) :=
    h.filterMap _
  have hdecimals : ((cells.filterMap Cell.toBinary64?).map decimalsNeeded).foldl max 1 =
      ((cells'.filterMap Cell.toBinary64?).map decimalsNeeded).foldl max 1 :=
    (hnumbers.map _).foldl_eq 1
  unfold ColumnFormat.choose
  simp only [h.all_eq, h.any_eq, hnumbers.any_eq, hdecimals]

theorem widest_eq_of_perm {texts texts' : List String} (h : texts.Perm texts') :
    widest texts = widest texts' :=
  (h.map Text.width).foldl_eq 0

end Rendering

open Rendering

namespace Table

variable {t t' : Table} {limit index : Nat}

/-! ## Formats and widths by columns -/

theorem getElem?_formats (t : Table) (limit index : Nat) :
    (t.formats limit)[index]? =
      t.columns[index]?.map fun _ => ColumnFormat.choose limit (t.column index) := by
  rw [formats, List.getElem?_map]
  by_cases h : index < t.columns.length
  · have hrange : index < t.columnCount := h
    rw [List.getElem?_range hrange, List.getElem?_eq_getElem h]
    rfl
  · have hrange : (List.range t.columnCount).length ≤ index := by
      rw [List.length_range]
      exact not_lt.1 h
    rw [List.getElem?_eq_none hrange, List.getElem?_eq_none (not_lt.1 h)]
    rfl

theorem getElem?_widths (t : Table) (limit index : Nat) :
    (t.widths limit)[index]? =
      t.columns[index]?.map fun name => widest (name :: t.writtenColumn limit index) := by
  rw [← zipWith_widest, List.getElem?_zipWith']
  by_cases h : index < t.columns.length
  · have hrange : index < t.columnCount := h
    rw [List.getElem?_eq_getElem h, List.getElem?_map, List.getElem?_range hrange]
    rfl
  · rw [List.getElem?_eq_none (not_lt.1 h)]
    rfl

/-- A column of the same cells is written in the same way. -/
theorem format_eq_of_perm (hcells : (t'.column index).Perm (t.column index))
    (hname : t'.columns[index]? = t.columns[index]?) (limit : Nat) :
    (t'.formats limit)[index]? = (t.formats limit)[index]? := by
  rw [getElem?_formats, getElem?_formats, hname, choose_eq_of_perm hcells]

/-- A column of the same name and the same cells is as wide. -/
theorem width_eq_of_perm (hcells : (t'.column index).Perm (t.column index))
    (hname : t'.columns[index]? = t.columns[index]?) (limit : Nat) :
    (t'.widths limit)[index]? = (t.widths limit)[index]? := by
  have hwritten : (t'.writtenColumn limit index).Perm (t.writtenColumn limit index) := by
    rw [writtenColumn, writtenColumn, choose_eq_of_perm hcells]
    exact hcells.map _
  have hwidest (name : String) : widest (name :: t'.writtenColumn limit index) =
      widest (name :: t.writtenColumn limit index) := widest_eq_of_perm (hwritten.cons name)
  rw [getElem?_widths, getElem?_widths, hname]
  simp only [hwidest]

/-! ## Rows in another order -/

/-- The row of a number. -/
def row (t : Table) (i : Fin t.rowCount) : List Cell := t.rows.get i

theorem ofFn_row (t : Table) : List.ofFn t.row = t.rows := List.ofFn_get t.rows

/-- A table with its rows in another order: the one numbered `i` is the one that was numbered
`σ i`. -/
def permute (t : Table) (σ : Equiv.Perm (Fin t.rowCount)) : Table :=
  t.withRows (List.ofFn (t.row ∘ σ)) fun row h => by
    obtain ⟨i, rfl⟩ := (List.mem_ofFn' _ _).1 h
    exact List.get_mem t.rows (σ i)

variable (σ : Equiv.Perm (Fin t.rowCount))

theorem perm_rows_permute : (t.permute σ).rows.Perm t.rows := by
  have h := σ.ofFn_comp_perm t.row
  rwa [ofFn_row] at h

theorem perm_column_permute (index : Nat) :
    ((t.permute σ).column index).Perm (t.column index) :=
  (perm_rows_permute σ).map _

theorem formats_permute (limit : Nat) : (t.permute σ).formats limit = t.formats limit := by
  refine List.ext_getElem? fun index => ?_
  exact format_eq_of_perm (perm_column_permute σ index) rfl limit

theorem widths_permute (limit : Nat) : (t.permute σ).widths limit = t.widths limit := by
  refine List.ext_getElem? fun index => ?_
  exact width_eq_of_perm (perm_column_permute σ index) rfl limit

/-- The line of a row, written in given formats and widths. -/
def lineOf (formats : List ColumnFormat) (widths : List Nat) (row : List Cell) : String :=
  " ".intercalate (List.zipWith flushRight widths (List.zipWith ColumnFormat.write formats row))

theorem lines_eq (t : Table) (limit : Nat) :
    t.lines limit = " ".intercalate (List.zipWith flushRight (t.widths limit) t.columns) ::
      t.rows.map (lineOf (t.formats limit) (t.widths limit)) := by
  simp only [lines, fields, List.map_cons, List.map_map]
  rfl

theorem render_eq_joinLines (h : 0 < t.rowCount) (limit : Nat) :
    t.render limit = joinLines (t.lines limit) := by
  have hrows : t.isEmpty = false := List.isEmpty_eq_false_iff.2 (List.ne_nil_of_length_pos h)
  rw [render, hrows]
  rfl

/-- **Rows in another order are shown by the same lines in that order**, under the same line of
names. The notation, the decimals, the limit and the width of a column depend on its name and on
which cells it has, in whatever order and table. -/
theorem render_permute (h : 0 < t.rowCount) (σ : Equiv.Perm (Fin t.rowCount)) (limit : Nat) :
    (∃ (names : String) (line : Fin t.rowCount → String),
      t.lines limit = names :: List.ofFn line ∧
      (t.permute σ).lines limit = names :: List.ofFn (line ∘ σ) ∧
      t.render limit = joinLines (t.lines limit) ∧
      (t.permute σ).render limit = joinLines ((t.permute σ).lines limit)) ∧
    ∀ (t' : Table) (index : Nat), t'.columns[index]? = t.columns[index]? →
      (t'.column index).Perm (t.column index) →
      (t'.formats limit)[index]? = (t.formats limit)[index]? ∧
        (t'.widths limit)[index]? = (t.widths limit)[index]? := by
  have hpermuted : 0 < (t.permute σ).rowCount := by
    rwa [rowCount, (perm_rows_permute σ).length_eq]
  refine ⟨⟨" ".intercalate (List.zipWith flushRight (t.widths limit) t.columns),
    lineOf (t.formats limit) (t.widths limit) ∘ t.row, ?_, ?_, render_eq_joinLines h limit,
    render_eq_joinLines hpermuted limit⟩, fun t' index hname hcells =>
      ⟨format_eq_of_perm hcells hname limit, width_eq_of_perm hcells hname limit⟩⟩
  · rw [lines_eq, ← List.map_ofFn, ofFn_row]
  · rw [lines_eq, formats_permute, widths_permute, Function.comp_assoc, ← List.map_ofFn]
    rfl

/-- A text that is cut, and three eighths that give an integer and a gap three decimals. -/
def cutText : Table where
  columns := ["name", "x"]
  rows := [[.text "a", .int 5], [.text "a text to cut", .float (.finite false ⟨4600427019358961664,
    by decide⟩)], [.text "b", .null]]
  nodup := by decide
  width := by decide

theorem render_permute_cutText :
    0 < cutText.rowCount ∧
      cutText.render 8 = "    name     x\n       a 5.000\na tex... 0.375\n       b   NaN" ∧
      (cutText.permute Fin.revPerm).render 8 =
        "    name     x\n       b   NaN\na tex... 0.375\n       a 5.000" ∧
      ∃ (names : String) (line : Fin cutText.rowCount → String),
        cutText.lines 8 = names :: List.ofFn line ∧
        (cutText.permute Fin.revPerm).lines 8 = names :: List.ofFn (line ∘ Fin.revPerm) := by
  have hrows : 0 < cutText.rowCount := by decide
  obtain ⟨⟨names, line, hlines, hpermuted, -⟩, -⟩ := render_permute hrows Fin.revPerm 8
  exact ⟨hrows, by decide +kernel, by decide +kernel, names, line, hlines, hpermuted⟩

end Table

end MarketQuery
