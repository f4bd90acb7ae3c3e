import MarketQuery.Proofs.Invocation.RowSelection
import MarketQuery.Proofs.Rendering.NumericColumn
import MarketQuery.Proofs.Rendering.RowOrder
import MarketQuery.Proofs.Rendering.Truncation
import MarketQuery.Query

/-!
# Gaps

A gap is a value that is missing or a number that is none. A column of missing values alone is
shown as its cells are, and a column of numbers that are none with decimals, but a gap looks the
same in both, unless the limit is too small for its text.

* `Cell.IsGap`, `Cell.Alike`: gaps, and cells that are the same or both gaps;
* `write_eq_of_alike`, `write_choose_of_isGap`: alike cells in one format, and gaps in any format
  of a column;
* `choose_eq_of_alike`: alike columns have one format if there is anything else than gaps;
* `Table.Alike`, `Series.Alike`, `Answer.Alike`: answers of alike cells;
* `Csv.save_eq_of_alike`, `Table.render_eq_of_alike`, `Series.render_eq_of_alike`: they are saved
  and shown in the same way;
* **`Answer.same_of_alike`**: nothing that is saved or shown tells them apart.
-/

namespace MarketQuery

/-! ## Alike cells -/

namespace Cell

/-- The value is missing, or it is a number that is none. -/
def IsGap (c : Cell) : Prop := c = .null ∨ c = .float .nan

instance (c : Cell) : Decidable c.IsGap := inferInstanceAs (Decidable (_ ∨ _))

/-- The cells are the same, or both are gaps. -/
inductive Alike : Cell → Cell → Prop
  | same (c : Cell) : Alike c c
  | gaps {c c' : Cell} (h : c.IsGap) (h' : c'.IsGap) : Alike c c'

variable {c c' : Cell}

theorem Alike.isGap (h : Alike c c') (hc : c.IsGap) : c'.IsGap := by
  cases h with
  | same => exact hc
  | gaps _ hc' => exact hc'

/-- What is the same for both gaps is the same for alike cells. -/
theorem Alike.congr {β : Type} (h : Alike c c') {f : Cell → β} (hf : f .null = f (.float .nan)) :
    f c = f c' := by
  have hgap {c : Cell} (hc : c.IsGap) : f c = f .null := by
    rcases hc with rfl | rfl
    · rfl
    · exact hf.symm
  cases h with
  | same => rfl
  | gaps hc hc' => rw [hgap hc, hgap hc']

end Cell

open Cell

theorem map_congr_of_alike {β : Type} {f : Cell → β} {cells cells' : List Cell}
    (h : List.Forall₂ Alike cells cells') (hf : f .null = f (.float .nan)) :
    cells.map f = cells'.map f :=
  map_eq_map_of_forall₂ h fun _ _ _ _ halike => halike.congr hf

theorem any_congr_of_alike {p : Cell → Bool} {cells cells' : List Cell}
    (h : List.Forall₂ Alike cells cells') (hp : p .null = p (.float .nan)) :
    cells.any p = cells'.any p := by
  have hmap := congrArg (List.any · id) (map_congr_of_alike h hp)
  simpa only [List.any_map, Function.id_comp] using hmap

theorem all_congr_of_alike {p : Cell → Bool} {cells cells' : List Cell}
    (h : List.Forall₂ Alike cells cells') (hp : p .null = p (.float .nan)) :
    cells.all p = cells'.all p := by
  have hmap := congrArg (List.all · id) (map_congr_of_alike h hp)
  simpa only [List.all_map, Function.id_comp] using hmap

theorem getD_alike {cells cells' : List Cell} (h : List.Forall₂ Alike cells cells') (index : Nat) :
    Alike (cells.getD index .null) (cells'.getD index .null) := by
  induction h generalizing index with
  | nil => exact .same _
  | cons halike _ ih =>
    cases index with
    | zero => exact halike
    | succ index => exact ih index

/-! ## Columns -/

namespace Rendering

variable {c c' : Cell} {cells cells' : List Cell} {limit : Nat}

theorem write_eq_of_alike (format : ColumnFormat) (h : Alike c c') :
    format.write c = format.write c' :=
  h.congr <| by cases format <;> rfl

/-- In every format of a column a gap is shown by its text, if the limit leaves room for it. -/
theorem write_choose_of_isGap (hlimit : limit = 0 ∨ 3 ≤ limit) (cells : List Cell) (h : c.IsGap) :
    (ColumnFormat.choose limit cells).write c = Number.nanText := by
  have hnull : (ColumnFormat.choose limit cells).write .null = Number.nanText := by
    unfold ColumnFormat.choose
    split
    · dsimp only
      split <;> rfl
    · have hwidth : Text.width Number.nanText = 3 := by decide
      exact truncate_of_fits (hlimit.imp_right fun hle => hwidth ▸ hle)
  rw [← hnull]
  exact write_eq_of_alike _ (.gaps h (.inl rfl))

/-- How many decimals a cell needs. -/
def decimalsOf (c : Cell) : Nat := (c.toBinary64?.map decimalsNeeded).getD 0

theorem foldl_decimalsNeeded (cells : List Cell) (init : Nat) :
    ((cells.filterMap toBinary64?).map decimalsNeeded).foldl max init =
      (cells.map decimalsOf).foldl max init := by
  induction cells generalizing init with
  | nil => rfl
  | cons c cells ih =>
    rw [List.map_cons, List.foldl_cons, ← ih]
    cases hc : c.toBinary64? with
    | none => simp [hc, decimalsOf]
    | some x => simp [hc, decimalsOf]

/-- A cell that is no gap is there in an alike column too. -/
theorem any_not_isNull (h : List.Forall₂ Alike cells cells') (hnumber : ∃ c ∈ cells, ¬ c.IsGap) :
    cells.any (!·.isNull) = true ∧ cells'.any (!·.isNull) = true := by
  obtain ⟨c, hc, hgap⟩ := hnumber
  have hnull : (!c.isNull) = true := by
    cases c with
    | null => exact absurd (.inl rfl) hgap
    | _ => rfl
  obtain ⟨c', hc', halike⟩ := exists_mem_of_forall₂ h hc
  cases halike with
  | same => exact ⟨List.any_eq_true.2 ⟨c, hc, hnull⟩, List.any_eq_true.2 ⟨c, hc', hnull⟩⟩
  | gaps hc _ => exact absurd hc hgap

/-- A column with more than gaps is written in the same way as one that is alike: gaps count as
numbers with a fraction, but none of them vanishes or needs decimals. -/
theorem choose_eq_of_alike (h : List.Forall₂ Alike cells cells') (hnumber : ∃ c ∈ cells, ¬ c.IsGap)
    (limit : Nat) : ColumnFormat.choose limit cells = ColumnFormat.choose limit cells' := by
  have hnumeric : cells.all isNumeric = cells'.all isNumeric := all_congr_of_alike h rfl
  have hfractional : cells.any isFractional = cells'.any isFractional := any_congr_of_alike h rfl
  obtain ⟨hpresent, hpresent'⟩ := any_not_isNull h hnumber
  have hvanishes : (cells.filterMap toBinary64?).any vanishes =
      (cells'.filterMap toBinary64?).any vanishes := by
    rw [List.any_filterMap, List.any_filterMap]
    exact any_congr_of_alike h rfl
  have hdecimals : ((cells.filterMap toBinary64?).map decimalsNeeded).foldl max 1 =
      ((cells'.filterMap toBinary64?).map decimalsNeeded).foldl max 1 := by
    rw [foldl_decimalsNeeded, foldl_decimalsNeeded, map_congr_of_alike h rfl]
  simp only [ColumnFormat.choose, hnumeric, hfractional, hpresent, hpresent', hvanishes, hdecimals]

/-- Alike cells look the same in alike columns. -/
theorem write_choose_eq_of_alike (hlimit : limit = 0 ∨ 3 ≤ limit)
    (h : List.Forall₂ Alike cells cells') (hc : c ∈ cells) (halike : Alike c c') :
    (ColumnFormat.choose limit cells).write c = (ColumnFormat.choose limit cells').write c' := by
  by_cases hgaps : ∀ c ∈ cells, c.IsGap
  · have hgap := hgaps c hc
    rw [write_choose_of_isGap hlimit cells hgap,
      write_choose_of_isGap hlimit cells' (halike.isGap hgap)]
  · have hnumber : ∃ c ∈ cells, ¬ c.IsGap := by
      simpa only [not_forall, exists_prop] using hgaps
    rw [choose_eq_of_alike h hnumber]
    exact write_eq_of_alike _ halike

end Rendering

open Rendering

/-! ## Alike tables and series -/

/-- The tables have the same columns, and alike cells in all places. -/
structure Table.Alike (t t' : Table) : Prop where
  columns : t.columns = t'.columns
  rows : List.Forall₂ (List.Forall₂ Cell.Alike) t.rows t'.rows

/-- The series have the same name and the same labels, and alike cells. -/
structure Series.Alike (s s' : Series) : Prop where
  name : s.name = s'.name
  entries : List.Forall₂ (fun e e' => e.1 = e'.1 ∧ Cell.Alike e.2 e'.2) s.entries s'.entries

/-- The answers are of one kind, and alike. -/
inductive Answer.Alike : Answer → Answer → Prop
  | table {t t' : Table} (h : t.Alike t') : Alike (.table t) (.table t')
  | series {s s' : Series} (h : s.Alike s') : Alike (.series s) (.series s')
  | scalar {c c' : Cell} (h : c.Alike c') : Alike (.scalar c) (.scalar c')
  | text (s : String) : Alike (.text s) (.text s)

namespace Csv

variable {t t' : Table}

theorem parts_eq_of_alike (h : t.Alike t') : parts t = parts t' := by
  have hrows : t.rows.map (·.map field) = t'.rows.map (·.map field) :=
    map_eq_map_of_forall₂ h.rows fun _ _ _ _ hrow => map_congr_of_alike hrow rfl
  rw [parts, parts, fields, fields, h.columns, hrows]

theorem encode_eq_of_alike (h : t.Alike t') : encode t = encode t' :=
  congrArg String.join (parts_eq_of_alike h)

theorem save_eq_of_alike (h : t.Alike t') (path : String) (fs : FileSystem) :
    save t path fs = save t' path fs := by
  have hcount : t.rowCount = t'.rowCount := h.rows.length_eq
  simp only [save, writeTable, fillFile, parts_eq_of_alike h, hcount]

end Csv

namespace Table

variable {t t' : Table} {limit : Nat}

theorem column_alike (h : t.Alike t') (index : Nat) :
    List.Forall₂ Cell.Alike (t.column index) (t'.column index) := by
  rw [column, column, List.forall₂_map_left_iff, List.forall₂_map_right_iff]
  exact h.rows.imp fun _ _ hrow => getD_alike hrow index

theorem fields_eq_of_alike (hlimit : limit = 0 ∨ 3 ≤ limit) (h : t.Alike t') :
    t.fields limit = t'.fields limit := by
  have hcount : t.columnCount = t'.columnCount := congrArg List.length h.columns
  have hrows : t.rows.map (List.zipWith ColumnFormat.write (t.formats limit)) =
      t'.rows.map (List.zipWith ColumnFormat.write (t'.formats limit)) := by
    refine map_eq_map_of_forall₂ h.rows fun row hrow row' hrow' halike => ?_
    rw [zipWith_formats hrow, zipWith_formats hrow', hcount]
    refine List.map_congr_left fun index _ => ?_
    have hcell : row.getD index .null ∈ t.column index := List.mem_map_of_mem hrow
    exact write_choose_eq_of_alike hlimit (column_alike h index) hcell (getD_alike halike index)
  rw [fields, fields, h.columns, hrows]

theorem render_eq_of_alike (hlimit : limit = 0 ∨ 3 ≤ limit) (h : t.Alike t') :
    t.render limit = t'.render limit := by
  have hcount : t.columnCount = t'.columnCount := congrArg List.length h.columns
  have hempty : t.isEmpty = t'.isEmpty := isEmpty_eq_of_forall₂ h.rows
  simp only [render, lines, widths, fields_eq_of_alike hlimit h, h.columns, hcount, hempty]

end Table

namespace Series

variable {s s' : Series}

theorem lines_eq_of_alike (h : s.Alike s') : s.lines = s'.lines := by
  have hlabels : s.entries.map (·.1) = s'.entries.map (·.1) :=
    map_eq_map_of_forall₂ h.entries fun _ _ _ _ he => he.1
  have hvalues : s.entries.map (·.2.display) = s'.entries.map (·.2.display) :=
    map_eq_map_of_forall₂ h.entries fun _ _ _ _ he => he.2.congr rfl
  unfold lines
  rw [hlabels, hvalues]
  refine map_eq_map_of_forall₂ h.entries fun (label, c) _ (label', c') _ ⟨hlabel, hcell⟩ => ?_
  have hvalue : c.display = c'.display := hcell.congr rfl
  obtain rfl : label = label' := hlabel
  dsimp only
  rw [hvalue]

theorem render_eq_of_alike (h : s.Alike s') : s.render = s'.render := by
  rw [render, render, isEmpty_eq_of_forall₂ h.entries, lines_eq_of_alike h]

end Series

/-! ## Whole answers -/

theorem Invocation.truncate_alike {t t' : Table} (i : Invocation) (h : t.Alike t') :
    (i.truncate t).Alike (i.truncate t') := by
  have hcount : t.rowCount = t'.rowCount := h.rows.length_eq
  refine ⟨?_, ?_⟩
  · rw [columns_truncate, columns_truncate, h.columns]
  · obtain ⟨n, hn⟩ | ⟨n, hn⟩ | hall := i.truncate_cases
    · rw [hn, hn, Table.rows_head, Table.rows_head, hcount]
      exact List.forall₂_take _ h.rows
    · rw [hn, hn, Table.rows_tail, Table.rows_tail, hcount]
      exact List.forall₂_drop _ h.rows
    · rw [hall, hall]
      exact h.rows

namespace Query

variable {i : Invocation} {display : DisplaySettings}

theorem saveIfAsked_eq_of_alike {t t' : Table} (h : t.Alike t') :
    saveIfAsked i t = saveIfAsked i t' := by
  have hsave (path : String) : Action.saveTable t path = Action.saveTable t' path := by
    funext s
    rw [Action.saveTable, Action.saveTable, Csv.save_eq_of_alike h]
  unfold saveIfAsked
  split
  · rfl
  · rw [hsave]

theorem showTable_eq_of_alike {t t' : Table}
    (hlimit : display.maxColumnWidth = 0 ∨ 3 ≤ display.maxColumnWidth) (h : t.Alike t') :
    showTable i display t = showTable i display t' := by
  have hsize : sizeLine t = sizeLine t' := by
    have hrows : t.rowCount = t'.rowCount := h.rows.length_eq
    have hcolumns : t.columnCount = t'.columnCount := congrArg List.length h.columns
    rw [sizeLine, sizeLine, hrows, hcolumns]
  rw [showTable, showTable, saveIfAsked_eq_of_alike h, Table.render_eq_of_alike hlimit h, hsize]

/-- Alike answers are shown by the same actions: the same is written to both streams and saved. -/
theorem showAnswer_eq_of_alike {a a' : Answer}
    (hlimit : display.maxColumnWidth = 0 ∨ 3 ≤ display.maxColumnWidth) (h : a.Alike a') :
    showAnswer i display a = showAnswer i display a' := by
  cases h with
  | table h => exact showTable_eq_of_alike hlimit (i.truncate_alike h)
  | series h => exact congrArg Action.answerLine (Series.render_eq_of_alike h)
  | scalar h => exact h.congr (f := fun c => Action.answerLine c.display) rfl
  | text => rfl

end Query

/-- **Gaps are saved and shown in the same way, however they are stored**: tables and series that
are alike but for that have the same content of a file and the same text, under every limit that
leaves room for the text of a gap, and whatever is asked for, the same is done with them. -/
theorem Answer.same_of_alike :
    (∀ t t' : Table, t.Alike t' → Csv.encode t = Csv.encode t' ∧
      (∀ path fs, Csv.save t path fs = Csv.save t' path fs) ∧
      ∀ limit, limit = 0 ∨ 3 ≤ limit → t.render limit = t'.render limit) ∧
    (∀ s s' : Series, s.Alike s' → s.render = s'.render) ∧
    ∀ (a a' : Answer) (i : Invocation) (display : DisplaySettings), a.Alike a' →
      display.maxColumnWidth = 0 ∨ 3 ≤ display.maxColumnWidth →
      Query.showAnswer i display a = Query.showAnswer i display a' := by
  refine ⟨fun t t' h => ⟨Csv.encode_eq_of_alike h, Csv.save_eq_of_alike h, ?_⟩, ?_, ?_⟩
  · exact fun _ hlimit => Table.render_eq_of_alike hlimit h
  · exact fun _ _ => Series.render_eq_of_alike
  · exact fun _ _ _ _ h hlimit => Query.showAnswer_eq_of_alike hlimit h

/-- A column of gaps alone, a text beside a gap and an integer beside one. -/
def missingValues : Table where
  columns := ["gaps", "text", "count"]
  rows := [[.null, .text "a", .int 1], [.null, .null, .float .nan]]
  nodup := by decide
  width := by decide

/-- The same with all gaps stored in the other way. -/
def noNumbers : Table where
  columns := ["gaps", "text", "count"]
  rows := [[.float .nan, .text "a", .int 1], [.float .nan, .float .nan, .null]]
  nodup := by decide
  width := by decide

theorem missingValues_alike : missingValues.Alike noNumbers where
  columns := rfl
  rows := by
    have hmissing : Cell.Alike .null (.float .nan) := .gaps (.inl rfl) (.inr rfl)
    have hnumber : Cell.Alike (.float .nan) .null := .gaps (.inr rfl) (.inl rfl)
    exact .cons (.cons hmissing (.cons (.same _) (.cons (.same _) .nil)))
      (.cons (.cons hmissing (.cons hmissing (.cons hnumber .nil))) .nil)

theorem Answer.same_of_alike_missingValues :
    missingValues.Alike noNumbers ∧ (3 = 0 ∨ 3 ≤ 3) ∧
      missingValues.render 3 = "gaps text count\n NaN    a   1.0\n NaN  NaN   NaN" ∧
      missingValues.render 3 = noNumbers.render 3 ∧
      Csv.encode missingValues = Csv.encode noNumbers := by
  obtain ⟨hencode, -, hrender⟩ := Answer.same_of_alike.1 _ _ missingValues_alike
  have hlimit : 3 = 0 ∨ 3 ≤ 3 := by decide
  exact ⟨missingValues_alike, hlimit, by decide +kernel, hrender 3 hlimit, hencode⟩

/-- Under a smaller limit the text of a missing value is cut, but not that of a number. -/
example : missingValues.render 2 ≠ noNumbers.render 2 := by decide +kernel

end MarketQuery
