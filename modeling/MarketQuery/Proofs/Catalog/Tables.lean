import Mathlib.Tactic.Common
import MarketQuery.Catalog

/-!
# Tables of fixed columns

Whatever lines or records are given, they make a table, and its columns are known beforehand.

* `exists_ofRows`: distinct columns and rows of their width make a table;
* `length_barRow`: a line that is not left out has a cell for each column;
* `exists_barTable`, `exists_recordTable`, `exists_numberedTable`: lines and records make a table;
* `Answer.Labelled`: the columns of a table or the labels of a series; `labelled_recordSeries`.
-/

namespace MarketQuery

namespace Table

variable {columns : List String} {rows : List (List Cell)}

theorem exists_ofRows (hc : columns.Nodup) (hr : ∀ row ∈ rows, row.length = columns.length) :
    ∃ t, ofRows columns rows = .ok t ∧ t.columns = columns := by
  have hrepeat : firstRepeat? [] columns = none := firstRepeat?_eq_none_iff.2 ⟨hc, by simp⟩
  have hwidth : rows.find? (·.length != columns.length) = none :=
    List.find?_eq_none.2 fun row h => by simp [hr row h]
  unfold ofRows
  split
  next name h => cases hrepeat.symm.trans h
  next =>
    split
    next row h => cases hwidth.symm.trans h
    next => exact ⟨_, rfl, rfl⟩

end Table

/-- The columns of a table, or the labels of a series, are the given ones. -/
inductive Answer.Labelled (labels : List String) : Answer → Prop
  | table {t : Table} (h : t.columns = labels) : Labelled labels (.table t)
  | series {s : Series} (h : s.entries.map (·.1) = labels) : Labelled labels (.series s)

namespace Catalog

/-! ## Bars -/

section Bars

variable {symbol? : Option (String × String)}

theorem length_barRow {line : String} {row : List Cell} (h : barRow? symbol? line = some row) :
    row.length = (barColumns symbol?).length := by
  unfold barRow? at h
  split at h
  · simp only [Option.ite_none_right_eq_some, Option.some.injEq] at h
    obtain ⟨hle, rfl⟩ := h
    simp [barColumns, List.length_zipWith, Nat.min_eq_left hle]
  · cases h

theorem exists_barTable (hc : (barColumns symbol?).Nodup) (lines : List String) :
    ∃ t, barTable symbol? lines = .ok t ∧ t.columns = barColumns symbol? := by
  refine Table.exists_ofRows hc fun row hrow => ?_
  obtain ⟨line, -, h⟩ := List.mem_filterMap.1 hrow
  exact length_barRow h

end Bars

/-! ## Records -/

section Records

variable {columns : List FieldColumn}

theorem exists_recordTable (hc : (columns.map (·.name)).Nodup) (records : List Json.Object) :
    ∃ t, recordTable columns records = .ok t ∧ t.columns = columns.map (·.name) := by
  refine Table.exists_ofRows hc fun row hrow => ?_
  obtain ⟨record, -, rfl⟩ := List.mem_map.1 hrow
  simp [recordRow]

theorem exists_numberedTable (hc : (ordinalColumn :: columns.map (·.name)).Nodup)
    (records : List Json.Object) :
    ∃ t, numberedTable columns records = .ok t ∧
      t.columns = ordinalColumn :: columns.map (·.name) := by
  refine Table.exists_ofRows hc fun row hrow => ?_
  obtain ⟨i, hi, rfl⟩ := List.mem_mapIdx.1 hrow
  simp [recordRow]

theorem labelled_recordSeries (name : String) (columns : List FieldColumn) (record : Json.Object) :
    (Answer.series (recordSeries name columns record)).Labelled (columns.map (·.name)) :=
  .series (by simp [recordSeries])

end Records

end Catalog

end MarketQuery
