import Mathlib.Algebra.Order.BigOperators.Group.List
import MarketQuery.Proofs.Cell.Characters
import MarketQuery.Proofs.Rendering.Grid
import MarketQuery.Proofs.Rendering.IntegerCells

/-!
# Line breaks in what is shown

A table has a line for the names and one for each row, and a series one for each entry. Nothing but
names, labels and texts holds further breaks, and they are shown as they are.

* `breaks`: the line breaks of a text; `breaks_joinLines`: those of lines joined;
* `cellBreaks`: the line breaks that a cell is shown with; `breaks_write_choose`, `breaks_display`:
  it is shown with these in every column of a table, and in a series;
* `Table.breaks_render`, `Series.breaks_render`: the line breaks of a whole table, and of a series;
* **`breaks_of_shown`**: there is one line for each row or entry, unless a name, a label or a text
  breaks it.
-/

namespace MarketQuery

namespace Rendering

open Number

/-- The line breaks of a text. -/
def breaks (s : String) : Nat := s.toList.count '\n'

variable {s : String} {limit : Nat}

theorem breaks_append (s t : String) : breaks (s ++ t) = breaks s + breaks t := by
  simp only [breaks, String.toList_append, List.count_append]

theorem breaks_eq_zero_iff : breaks s = 0 ↔ '\n' ∉ s.toList := List.count_eq_zero

/-- A separator stands between each two pieces. -/
theorem breaks_intercalate (separator : String) (piece : String) (pieces : List String) :
    breaks (separator.intercalate (piece :: pieces)) =
      ((piece :: pieces).map breaks).sum + pieces.length * breaks separator := by
  induction pieces generalizing piece with
  | nil => simp
  | cons next pieces ih =>
    rw [String.intercalate_cons_cons, breaks_append, breaks_append, ih]
    simp only [List.map_cons, List.sum_cons, List.length_cons, Nat.succ_mul]
    omega

theorem breaks_joinLines {lines : List String} (h : lines ≠ []) :
    breaks (joinLines lines) + 1 = lines.length + (lines.map breaks).sum := by
  obtain ⟨line, lines, rfl⟩ := List.exists_cons_of_ne_nil h
  have hbreak : breaks "\n" = 1 := by decide
  rw [joinLines, breaks_intercalate, hbreak, List.length_cons]
  omega

/-- A blank between the pieces of a line breaks nothing. -/
theorem breaks_joined (pieces : List String) :
    breaks (" ".intercalate pieces) = (pieces.map breaks).sum := by
  have hblank : breaks " " = 0 := by decide
  cases pieces with
  | nil => rfl
  | cons piece pieces => rw [breaks_intercalate, hblank, Nat.mul_zero, Nat.add_zero]

theorem breaks_padding (columns : Nat) (s : String) : breaks (padding columns s) = 0 := by
  rw [breaks_eq_zero_iff, padding, String.toList_ofList]
  intro h
  exact absurd (List.eq_of_mem_replicate h) (by decide)

theorem breaks_flushRight (columns : Nat) (s : String) :
    breaks (flushRight columns s) = breaks s := by
  rw [flushRight, breaks_append, breaks_padding, Nat.zero_add]

theorem breaks_flushLeft (columns : Nat) (s : String) :
    breaks (flushLeft columns s) = breaks s := by
  rw [flushLeft, breaks_append, breaks_padding, Nat.add_zero]

/-! ## Cells -/

/-- The line breaks that a cell is shown with. Numbers, truth values and gaps have none, and a text
has those that are left of it by a cut. -/
def cellBreaks (limit : Nat) : Cell → Nat
  | .text s => breaks (truncate limit s)
  | _ => 0

/-- Without a text there is no break: all else is written with letters, digits, signs and points. -/
theorem breaks_of_isNumberChar (h : ∀ c ∈ s.toList, IsNumberChar c) : breaks s = 0 := by
  rw [breaks_eq_zero_iff]
  intro hbreak
  exact (Text.isPrintableAscii_of_isNumberChar (h _ hbreak)).ne_lineFeed rfl

theorem cellBreaks_eq_zero {c : Cell} (h : ∀ s, c ≠ .text s) (limit : Nat) :
    cellBreaks limit c = 0 := by
  cases c with
  | text s => exact absurd rfl (h s)
  | _ => rfl

theorem cellBreaks_eq_zero_iff {c : Cell} : cellBreaks limit c = 0 ↔
    ∀ s, c = .text s → '\n' ∉ (truncate limit s).toList := by
  by_cases htext : ∃ s, c = .text s
  · obtain ⟨s, rfl⟩ := htext
    simp [cellBreaks, breaks_eq_zero_iff]
  · have hne : ∀ s, c ≠ .text s := not_exists.1 htext
    exact iff_of_true (cellBreaks_eq_zero hne limit) fun s hs => absurd hs (hne s)

theorem breaks_display (c : Cell) : breaks c.display = cellBreaks 0 c := by
  by_cases htext : ∃ s, c = .text s
  · obtain ⟨s, rfl⟩ := htext
    rw [cellBreaks, truncate_of_fits (.inl rfl), Cell.display]
  · have hne : ∀ s, c ≠ .text s := not_exists.1 htext
    rw [cellBreaks_eq_zero hne, breaks_of_isNumberChar (Cell.isNumberChar_of_mem_display hne)]

/-- A cut takes breaks away and adds none. -/
theorem breaks_truncate_le (limit : Nat) (s : String) : breaks (truncate limit s) ≤ breaks s := by
  by_cases h : limit = 0 ∨ Text.width s ≤ limit
  · rw [truncate_of_fits h]
  · have hdots : breaks "..." = 0 := by decide
    have hstarts := (isLongestWithin_takeColumns (limit - 3) s.toList).starts
    rw [truncate_of_exceeds h, breaks_append, hdots, Nat.add_zero, breaks, String.toList_ofList]
    exact hstarts.sublist.count_le '\n'

theorem breaks_write_display (limit : Nat) (c : Cell) :
    breaks ((ColumnFormat.display limit).write c) = cellBreaks limit c := by
  by_cases htext : ∃ s, c = .text s
  · obtain ⟨s, rfl⟩ := htext
    rfl
  · have hne : ∀ s, c ≠ .text s := not_exists.1 htext
    have hle : breaks ((ColumnFormat.display limit).write c) ≤ breaks c.display :=
      breaks_truncate_le limit c.display
    rw [breaks_display, cellBreaks_eq_zero hne] at hle
    rw [cellBreaks_eq_zero hne, Nat.le_zero.1 hle]

/-- In every column a cell is shown with its own breaks alone: a text makes the column one whose
cells are shown as they are, and where they are not there are numbers only. -/
theorem breaks_write_choose {c : Cell} {cells : List Cell} (hc : c ∈ cells) (limit : Nat) :
    breaks ((ColumnFormat.choose limit cells).write c) = cellBreaks limit c := by
  by_cases hmixed : (∀ c ∈ cells, isNumeric c = true) ∧ ∃ c ∈ cells, isFractional c = true
  · have hne : ∀ s, c ≠ .text s := by
      rintro s rfl
      exact Bool.false_ne_true (hmixed.1 _ hc)
    cases ColumnFormat.choose limit cells with
    | scientific =>
      rw [cellBreaks_eq_zero hne]
      exact breaks_of_isNumberChar (isNumberChar_of_mem_write .scientific _)
    | decimals count =>
      rw [cellBreaks_eq_zero hne]
      exact breaks_of_isNumberChar (isNumberChar_of_mem_fixed count _)
    | display limit' => rw [breaks_write_display, cellBreaks_eq_zero hne, cellBreaks_eq_zero hne]
  · rw [choose_of_not_mixed limit hmixed, breaks_write_display]

end Rendering

open Rendering

/-! ## Tables -/

namespace Table

variable {t : Table} {limit : Nat}

/-- The written cells of a row have the breaks of its cells. -/
theorem map_breaks_writtenRow {row : List Cell} (hrow : row ∈ t.rows) :
    (List.zipWith ColumnFormat.write (t.formats limit) row).map breaks =
      row.map (cellBreaks limit) := by
  have hlength : row.length = t.columnCount := t.width row hrow
  rw [zipWith_formats hrow, List.map_map, ← hlength]
  refine List.ext_getElem (by simp) fun index hi _ => ?_
  have hcell : row.getD index .null ∈ t.column index := List.mem_map_of_mem hrow
  have hlt : index < row.length := by simpa using hi
  simp only [List.getElem_map, List.getElem_range, Function.comp_apply, breaks_write_choose hcell]
  rw [List.getD_eq_getElem?_getD, List.getElem?_eq_getElem hlt, Option.getD_some]

theorem map_breaks_flushRight {widths : List Nat} {row : List String}
    (h : row.length = widths.length) :
    (List.zipWith flushRight widths row).map breaks = row.map breaks := by
  refine List.ext_getElem (by simp [h]) fun index _ _ => ?_
  simp only [List.getElem_map, List.getElem_zipWith, breaks_flushRight]

theorem map_breaks_lines (t : Table) (limit : Nat) :
    (t.lines limit).map breaks = (t.columns.map breaks).sum ::
      t.rows.map fun row => (row.map (cellBreaks limit)).sum := by
  have hline : (t.lines limit).map breaks =
      (t.fields limit).map fun row => (row.map breaks).sum := by
    rw [lines, List.map_map]
    refine List.map_congr_left fun row hrow => ?_
    have hlength : row.length = (t.widths limit).length := by
      rw [length_of_mem_fields hrow, length_widths]
    rw [Function.comp_apply, breaks_joined, map_breaks_flushRight hlength]
  rw [hline, fields, List.map_cons, List.map_map]
  congr 1
  refine List.map_congr_left fun row hrow => ?_
  rw [Function.comp_apply, map_breaks_writtenRow hrow]

/-- A table that has rows is broken behind the line of its names and each row but the last. -/
theorem breaks_render (h : 0 < t.rowCount) (limit : Nat) :
    breaks (t.render limit) = t.rowCount + ((t.columns.map breaks).sum +
      (t.rows.map fun row => (row.map (cellBreaks limit)).sum).sum) := by
  have hrows : t.isEmpty = false := List.isEmpty_eq_false_iff.2 (List.ne_nil_of_length_pos h)
  have hlength : (t.lines limit).length = t.rowCount + 1 := by
    simp [lines, fields, rowCount]
  have hlines : t.lines limit ≠ [] := List.ne_nil_of_length_pos (by omega)
  have hbreaks := breaks_joinLines hlines
  rw [hlength, map_breaks_lines, List.sum_cons] at hbreaks
  rw [render, hrows]
  exact Nat.add_right_cancel (hbreaks.trans (Nat.add_right_comm _ _ _))

end Table

/-! ## Series -/

namespace Series

theorem map_breaks_lines (s : Series) :
    s.lines.map breaks = s.entries.map fun e => breaks e.1 + cellBreaks 0 e.2 := by
  have hblanks : breaks "    " = 0 := by decide
  rw [lines, List.map_map]
  refine List.map_congr_left fun e _ => ?_
  simp only [Function.comp_apply, breaks_append, breaks_flushLeft, breaks_flushRight, hblanks,
    breaks_display, Nat.add_zero]

/-- A series is broken behind each entry but the last. -/
theorem breaks_render {s : Series} (h : s.entries ≠ []) :
    breaks s.render + 1 = s.entries.length +
      (s.entries.map fun e => breaks e.1 + cellBreaks 0 e.2).sum := by
  have hentries : s.entries.isEmpty = false := List.isEmpty_eq_false_iff.2 h
  have hlines : s.lines ≠ [] := by
    rw [lines]
    exact fun hnil => h (List.map_eq_nil_iff.1 hnil)
  have hbreaks := breaks_joinLines hlines
  rw [map_breaks_lines, lines, List.length_map] at hbreaks
  rw [render, hentries]
  exact hbreaks

end Series

namespace Rendering

/-- **There is one line for each row or entry, but for the breaks of names, labels and texts.** A
table that has rows is shown with as many breaks as rows, and a series with one less than entries,
besides those of its names or labels and those that are left of its texts by a cut. Numbers, truth
values, gaps, blanks and the dots of a cut add none. So the count of lines is exact just if no name,
no label and no text has a break where it is shown. -/
theorem breaks_of_shown :
    (∀ (t : Table) (limit : Nat), 0 < t.rowCount →
      breaks (t.render limit) = t.rowCount + ((t.columns.map breaks).sum +
        (t.rows.map fun row => (row.map (cellBreaks limit)).sum).sum) ∧
      (breaks (t.render limit) = t.rowCount ↔ (∀ name ∈ t.columns, '\n' ∉ name.toList) ∧
        ∀ row ∈ t.rows, ∀ s, .text s ∈ row → '\n' ∉ (truncate limit s).toList)) ∧
    ∀ s : Series, s.entries ≠ [] →
      breaks s.render + 1 = s.entries.length +
        (s.entries.map fun e => breaks e.1 + cellBreaks 0 e.2).sum ∧
      (breaks s.render + 1 = s.entries.length ↔ ∀ e ∈ s.entries, '\n' ∉ e.1.toList ∧
        ∀ text, e.2 = .text text → '\n' ∉ (truncate 0 text).toList) := by
  refine ⟨fun t limit h => ⟨t.breaks_render h limit, ?_⟩, fun s h => ⟨s.breaks_render h, ?_⟩⟩
  · rw [Table.breaks_render h, Nat.add_eq_left, Nat.add_eq_zero_iff]
    simp only [List.sum_eq_zero_iff, List.forall_mem_map, breaks_eq_zero_iff,
      cellBreaks_eq_zero_iff]
    refine and_congr_right fun _ => forall₂_congr fun row _ => ?_
    constructor
    · intro hcells s hs
      exact hcells _ hs s rfl
    · rintro hcells c hc s rfl
      exact hcells s hc
  · rw [Series.breaks_render h, Nat.add_eq_left]
    simp only [List.sum_eq_zero_iff, List.forall_mem_map, Nat.add_eq_zero_iff, breaks_eq_zero_iff,
      cellBreaks_eq_zero_iff]

/-- A text with a break that is shown, and one with a break that is cut away. -/
def brokenTexts : Table where
  columns := ["note", "n"]
  rows := [[.text "a\nb", .int 1], [.text "a longer\nnote", .null]]
  nodup := by decide
  width := by decide

/-- The labels of a series are not cut. -/
def brokenLabel : Series where
  name := none
  entries := [("a\nb", .int 1), ("c", .float .nan)]

theorem breaks_of_shown_brokenTexts :
    0 < brokenTexts.rowCount ∧ brokenLabel.entries ≠ [] ∧
      breaks (brokenTexts.render 6) = brokenTexts.rowCount + 1 ∧
      breaks brokenLabel.render + 1 = brokenLabel.entries.length + 1 := by
  have hrows : 0 < brokenTexts.rowCount := by decide
  have hentries : brokenLabel.entries ≠ [] := by decide
  obtain ⟨htable, -⟩ := breaks_of_shown.1 brokenTexts 6 hrows
  obtain ⟨hseries, -⟩ := breaks_of_shown.2 brokenLabel hentries
  refine ⟨hrows, hentries, htable.trans ?_, hseries.trans ?_⟩
  · decide +kernel
  · decide +kernel

/-- A text with a break takes two lines. -/
theorem breaks_brokenTexts_ne :
    0 < brokenTexts.rowCount ∧ breaks (brokenTexts.render 30) ≠ brokenTexts.rowCount := by
  decide +kernel

end Rendering

end MarketQuery
