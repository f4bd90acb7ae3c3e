import MarketQuery.Proofs.Cell.NumberText
import MarketQuery.Proofs.Value.Coercion

/-!
# The two readers of numbers

A text that an argument takes for an integer or a number is taken for the same by a cell, and a text
that it takes for a truth value or for itself is none to a cell.

* `Number.not_isReal_of_isWord`: the word of a truth value is no number;
* `asNumberCell`, `ofNumberText_eq_asNumberCell`: the cell of a text, from the value it stands for;
* **`ofNumberText_iff_coerce`**: both read the same.
-/

namespace MarketQuery

namespace Number

variable {cs : List Char} {b : Bool}

theorem isAlpha_of_isWord (h : IsWord (boolText b) cs) : ∀ c ∈ cs, c.isAlpha :=
  h.isAlpha (by cases b <;> decide)

/-- Behind a sign there are no letters alone, and the words for numbers are other words. -/
theorem not_isReal_of_isWord (h : IsWord (boolText b) cs) (x : Binary64) : ¬ IsReal cs x := by
  have halpha := isAlpha_of_isWord h
  have hsign {sign : List Char} {negative : Bool} (hs : IsSign sign negative)
      (hletters : ∀ c ∈ sign, c.isAlpha) : sign = [] := by
    cases hs with
    | absent => rfl
    | plus | minus => exact absurd (hletters _ List.mem_cons_self) (by decide)
  have hother {word : String} (hw : IsWord word cs) : word.toList = (boolText b).toList :=
    hw.symm.trans h
  intro hx
  cases hx with
  | numeral _ hn =>
    obtain ⟨c, hhead, hc⟩ := Numeral.exists_head_numeral hn
    have hletter := halpha c (List.mem_append_right _ (List.mem_of_mem_head? hhead))
    rcases hc with hdigit | rfl
    · exact not_isAlpha_of_isDigit hdigit hletter
    · exact absurd hletter (by decide)
  | infinite hs hw =>
    obtain rfl := hsign hs fun c hc => halpha c (List.mem_append_left _ hc)
    rcases hw with hw | hw
    · exact absurd (hother hw) (by cases b <;> decide)
    · exact absurd (hother hw) (by cases b <;> decide)
  | nan hs hw =>
    obtain rfl := hsign hs fun c hc => halpha c (List.mem_append_left _ hc)
    exact absurd (hother hw) (by cases b <;> decide)

end Number

namespace Value

open Number Text

/-- A word of letters stands between no blanks. -/
theorem trimsTo_of_isWord {t : String} {b : Bool} (h : IsWord (boolText b) t.toList) :
    TrimsTo t.toList t.toList :=
  trimsTo_self fun c hc => isBlank_of_isAlpha (isAlpha_of_isWord h c hc)

/-- The number that a value is, as a cell; what is none is a gap. -/
def asNumberCell : Value → Cell
  | int n => .int n
  | float x => .float x
  | bool _ | text _ => .null

theorem ofNumberText_eq_asNumberCell (t : String) :
    Cell.ofNumberText t = (coerce t).asNumberCell := by
  obtain ⟨v, hv⟩ := exists_standsFor t
  rw [coerce_of_standsFor hv]
  cases hv with
  | truth hb =>
    exact Cell.ofNumberText_of (.missing (trimsTo_of_isWord hb)
      (fun _ hn => not_truth_of_isDecimal (trimsTo_of_isWord hb) hn _ hb) (not_isReal_of_isWord hb))
  | integer _ ht hn => exact Cell.ofNumberText_of (.integer ht hn)
  | real _ ht hint hx => exact Cell.ofNumberText_of (.real ht hint hx)
  | itself _ ht hint hreal => exact Cell.ofNumberText_of (.missing ht hint hreal)

/-- **A cell and an argument read the same number from a text**, of the same kind, and a cell finds
none just where an argument has a truth value or the text itself. -/
theorem ofNumberText_iff_coerce (t : String) :
    (∀ n, Cell.ofNumberText t = .int n ↔ coerce t = .int n) ∧
    (∀ x, Cell.ofNumberText t = .float x ↔ coerce t = .float x) ∧
    (Cell.ofNumberText t = .null ↔ (∃ b, coerce t = .bool b) ∨ ∃ s, coerce t = .text s) := by
  rw [ofNumberText_eq_asNumberCell]
  cases coerce t <;> simp [asNumberCell]

/-- A dash, and the word of a truth value in any case of its letters, are no numbers. -/
example : Cell.ofNumberText " - " = .null ∧ Cell.ofNumberText "TRUE" = .null ∧
    Cell.ofNumberText " +0x1" = .null := by
  decide

end Value

end MarketQuery
