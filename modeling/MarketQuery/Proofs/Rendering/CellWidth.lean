import MarketQuery.Proofs.Cell.Characters
import MarketQuery.Proofs.Rendering.NumericColumn
import MarketQuery.Proofs.Rendering.Truncation

/-!
# The width of cells

The limit cuts what is shown as it is, texts and numbers alike. A column of numbers with a fraction
or a gap has a notation of its own, which the limit does not touch.

* `SharesNotation`: such columns; `choose_of_not_sharesNotation`, `choose_of_sharesNotation`: all
  others are shown as they are, and these in the same way whatever the limit is;
* `width_write_display_le`: what is shown as it is keeps to the limit;
* `width_write_of_sharesNotation`: a number in such a column is as wide as its numeral is long;
* **`Table.width_shown_le`**: which cells of a table keep to the limit;
* `Table.lt_width_halves`: and one that does not.
-/

namespace MarketQuery

namespace Rendering

open Text

variable {limit : Nat} {cells : List Cell} {c : Cell} {s : String}

/-! ## Columns with a notation of their own -/

/-- A column of numbers that are not all missing, with a fraction or a gap. -/
structure SharesNotation (cells : List Cell) : Prop where
  numeric : ∀ c ∈ cells, isNumeric c = true
  fractional : ∃ c ∈ cells, isFractional c = true
  number : ∃ c ∈ cells, c ≠ .null

theorem choose_of_not_sharesNotation (h : ¬ SharesNotation cells) (limit : Nat) :
    ColumnFormat.choose limit cells = .display limit := by
  rw [ColumnFormat.choose, if_neg]
  simp only [Bool.and_eq_true, List.all_eq_true, List.any_eq_true]
  rintro ⟨⟨hnumeric, hfractional⟩, c, hc, hpresent⟩
  refine h ⟨hnumeric, hfractional, c, hc, ?_⟩
  rintro rfl
  cases hpresent

/-- Such a column is written without regard to the limit, with exponents or decimals. -/
theorem choose_of_sharesNotation (h : SharesNotation cells) (limit : Nat) :
    ColumnFormat.choose limit cells = .scientific ∨
      ∃ count, ColumnFormat.choose limit cells = .decimals count := by
  rw [choose_of_numeric h.numeric h.fractional h.number]
  split
  · exact .inl rfl
  · exact .inr ⟨_, rfl⟩

theorem choose_eq_choose_of_sharesNotation (h : SharesNotation cells) (limit limit' : Nat) :
    ColumnFormat.choose limit cells = ColumnFormat.choose limit' cells := by
  rw [choose_of_numeric h.numeric h.fractional h.number,
    choose_of_numeric h.numeric h.fractional h.number]

/-! ## Widths -/

theorem mem_truncate {ch : Char} (h : ch ∈ (truncate limit s).toList) :
    ch ∈ s.toList ∨ ch = '.' := by
  by_cases hfits : limit = 0 ∨ width s ≤ limit
  · rw [truncate_of_fits hfits] at h
    exact .inl h
  · rw [truncate_of_exceeds hfits, String.toList_append, List.mem_append,
      String.toList_ofList] at h
    rcases h with h | h
    · exact .inl ((isLongestWithin_takeColumns (limit - 3) s.toList).starts.subset h)
    · exact .inr (List.eq_of_mem_replicate (n := 3) h)

/-- A text of ASCII has no character that widens it, so a cut makes it no wider than the limit. -/
theorem width_truncate_le_of_ascii (hlimit : 3 ≤ limit)
    (h : ∀ ch ∈ s.toList, IsPrintableAscii ch) : width (truncate limit s) ≤ limit := by
  have hnone : (truncate limit s).toList.countP widens = 0 := by
    refine List.countP_eq_zero.2 fun ch hch => Bool.eq_false_iff.1 ?_
    rcases mem_truncate hch with hs | rfl
    · exact (h ch hs).widens_eq_false
    · decide
  by_cases hfits : limit = 0 ∨ width s ≤ limit
  · rw [truncate_of_fits hfits]
    exact hfits.resolve_left (by omega)
  · calc width (truncate limit s)
        ≤ charWidths (truncate limit s).toList + (truncate limit s).toList.countP widens :=
          width_le _
      _ = charWidths (truncate limit s).toList := by rw [hnone, Nat.add_zero]
      _ ≤ limit := charWidths_truncate_le hfits hlimit

/-- What is shown as it is keeps to the limit, numbers of any length too. -/
theorem width_write_display_le (hlimit : 3 ≤ limit)
    (h : ∀ s, c = .text s → ∀ ch ∈ s.toList, IsPrintableAscii ch) :
    width ((ColumnFormat.display limit).write c) ≤ limit := by
  refine width_truncate_le_of_ascii hlimit ?_
  by_cases htext : ∃ s, c = .text s
  · obtain ⟨s, rfl⟩ := htext
    exact h s rfl
  · exact fun ch hch => isPrintableAscii_of_isNumberChar
      (Cell.isNumberChar_of_mem_display (not_exists.1 htext) ch hch)

theorem width_write_of_sharesNotation (h : SharesNotation cells) (limit : Nat) (c : Cell) :
    width ((ColumnFormat.choose limit cells).write c) =
      ((ColumnFormat.choose limit cells).write c).length := by
  refine width_of_isPrintableAscii fun ch hch => isPrintableAscii_of_isNumberChar ?_
  rcases choose_of_sharesNotation h limit with hchoose | ⟨count, hchoose⟩
  · rw [hchoose] at hch
    exact Number.isNumberChar_of_mem_write .scientific _ ch hch
  · rw [hchoose] at hch
    exact Number.isNumberChar_of_mem_fixed count _ ch hch

end Rendering

open Rendering

namespace Table

variable {t : Table} {limit index number : Nat} {c : Cell} {s : String}

/-- **Cells keep to the limit unless their column has a notation of its own.** Where all texts of a
column are of printable ASCII, no cell of it is wider than the limit, be it a text, a truth value or
a number of many digits. In a column of numbers with a fraction or a gap a cell is shown as if there
were no limit, so that it is as wide as its numeral is long. -/
theorem width_shown_le (hlimit : 3 ≤ limit) (hi : index < t.columnCount)
    (htexts : ∀ text, .text text ∈ t.column index →
      ∀ ch ∈ text.toList, Text.IsPrintableAscii ch)
    (hs : t.ShownAt limit number index c s) :
    (¬ SharesNotation (t.column index) → Text.width s ≤ limit) ∧
    (SharesNotation (t.column index) →
      t.ShownAt 0 number index c s ∧ Text.width s = s.length) := by
  obtain ⟨hcell, htext⟩ := (shownAt_iff hi).1 hs
  have hmem : c ∈ t.column index := List.mem_of_getElem? hcell
  constructor
  · intro hnone
    rw [htext, choose_of_not_sharesNotation hnone]
    refine width_write_display_le hlimit ?_
    rintro text rfl
    exact htexts text hmem
  · intro hshares
    refine ⟨(shownAt_iff hi).2 ⟨hcell, ?_⟩, ?_⟩
    · rw [htext, choose_eq_choose_of_sharesNotation hshares]
    · rw [htext, width_write_of_sharesNotation hshares]

/-- The number 123456789.5, above a gap and above a text. -/
def halves : Table where
  columns := ["x", "y"]
  rows := [[.float (.finite false ⟨4728057454380711936, by decide⟩),
    .float (.finite false ⟨4728057454380711936, by decide⟩)], [.null, .text "a"]]
  nodup := by decide
  width := by decide

theorem not_sharesNotation_halves : ¬ SharesNotation (halves.column 1) :=
  fun h => Bool.false_ne_true (h.numeric (.text "a") (by decide))

theorem shownAt_halves (limit index : Nat) (hi : index < 2)
    (h : (ColumnFormat.choose limit (halves.column index)).write
      (.float (.finite false ⟨4728057454380711936, by decide⟩)) = s) :
    halves.ShownAt limit 0 index (.float (.finite false ⟨4728057454380711936, by decide⟩)) s := by
  refine (shownAt_iff hi).2 ⟨?_, h.symm⟩
  match index, hi with
  | 0, _ => rfl
  | 1, _ => rfl

theorem width_shown_le_halves :
    3 ≤ 8 ∧ 1 < halves.columnCount ∧ ¬ SharesNotation (halves.column 1) ∧
      halves.ShownAt 8 0 1 (.float (.finite false ⟨4728057454380711936, by decide⟩)) "12345..." ∧
      Text.width "12345..." ≤ 8 := by
  have htexts : ∀ text, .text text ∈ halves.column 1 →
      ∀ ch ∈ text.toList, Text.IsPrintableAscii ch := by
    intro text htext
    have : text = "a" := by simpa [halves, Table.column] using htext
    subst this
    exact Text.isPrintableAscii_of_all (by decide)
  have hs : halves.ShownAt 8 0 1 (.float (.finite false ⟨4728057454380711936, by decide⟩))
      "12345..." := shownAt_halves 8 1 (by decide) (by decide +kernel)
  exact ⟨by decide, by decide, not_sharesNotation_halves, hs,
    (width_shown_le (by decide) (by decide) htexts hs).1 not_sharesNotation_halves⟩

/-- Above the gap it is shown with all its digits, although only eight columns are allowed. -/
theorem lt_width_halves :
    halves.ShownAt 8 0 0 (.float (.finite false ⟨4728057454380711936, by decide⟩)) "123456789.5" ∧
      8 < Text.width "123456789.5" :=
  ⟨shownAt_halves 8 0 (by decide) (by decide +kernel), by decide +kernel⟩

end Table

end MarketQuery
