import MarketQuery.Cell
import MarketQuery.Proofs.Number.ReadBack
import MarketQuery.Proofs.Text.Ascii

/-!
# The characters of cells and values

Only texts are shown with other characters than ASCII letters, digits, signs and points.

* `Number.isNumberChar_of_mem_write`, `Number.isNumberChar_of_mem_fixed`: the characters of numbers
  in every style and with every count of places;
* `Value.isNumberChar_of_mem_display`, `Cell.isNumberChar_of_mem_display`: the characters of a value
  and of a cell that is no text.
-/

namespace MarketQuery

namespace Number

theorem isNumberChar_of_mem_write (style : Style) (x : Binary64) :
    ∀ c ∈ (write style x).toList, IsNumberChar c :=
  isNumberChar_of_isReal (isReal_write style x)

theorem isNumberChar_of_isNumeric {c : Char} (h : IsNumeric c) : IsNumberChar c := by
  rcases h with hdigit | hother
  · exact isNumberChar_of_isDigit hdigit
  · simp only [List.mem_cons, List.not_mem_nil, or_false] at hother
    rcases hother with rfl | rfl | rfl | rfl
    · exact .inr (by decide)
    · exact .inr (by decide)
    · exact .inr (by decide)
    · exact .inl (by decide)

/-- What is not finite is written in the same way with every count of places. -/
theorem isNumberChar_of_mem_fixed (places : Nat) (x : Binary64) :
    ∀ c ∈ (fixed places x).toList, IsNumberChar c := by
  cases x with
  | nan => exact isNumberChar_of_mem_write .plain .nan
  | infinite negative => exact isNumberChar_of_mem_write .plain (.infinite negative)
  | finite negative code =>
    exact fun c hc => isNumberChar_of_isNumeric (isNumeric_of_mem_fixed hc)

end Number

open Number

theorem isNumberChar_of_mem_boolText {b : Bool} : ∀ c ∈ (boolText b).toList, IsNumberChar c := by
  have halpha : (boolText b).toList.all Char.isAlpha = true := by
    cases b <;> decide
  exact fun c hc => isNumberChar_of_isAlpha (List.all_eq_true.1 halpha c hc)

theorem isNumberChar_of_mem_intText {n : Int64} : ∀ c ∈ (intText n).toList, IsNumberChar c := by
  intro c hc
  rw [intText, String.toList_ofList] at hc
  exact isNumberChar_of_isNumeric (isNumeric_of_mem_ofInt hc)

theorem Value.isNumberChar_of_mem_display {v : Value} (hv : ∀ s, v ≠ .text s) :
    ∀ c ∈ v.display.toList, IsNumberChar c := by
  cases v with
  | bool b => exact isNumberChar_of_mem_boolText
  | int n => exact isNumberChar_of_mem_intText
  | float x => exact isNumberChar_of_mem_write .plain x
  | text s => exact absurd rfl (hv s)

theorem Cell.isNumberChar_of_mem_display {cell : Cell} (h : ∀ s, cell ≠ .text s) :
    ∀ c ∈ cell.display.toList, IsNumberChar c := by
  cases cell with
  | null => exact isNumberChar_of_mem_write .plain .nan
  | bool b => exact isNumberChar_of_mem_boolText
  | int n => exact isNumberChar_of_mem_intText
  | float x => exact isNumberChar_of_mem_write .plain x
  | text s => exact absurd rfl (h s)

end MarketQuery
