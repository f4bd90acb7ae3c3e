import MarketQuery.Csv
import MarketQuery.Proofs.Cell.NumberText
import MarketQuery.Proofs.Number.ReadBack
import MarketQuery.Proofs.Value.Coercion

/-!
# Numbers in saved files

The field of an integer is read as an integer and that of a number as a number: a finite number is
saved with a point or an exponent, which no integer has.

* `Number.not_isDecimal_write_source`: a saved number is no integer;
* **`ofNumberText_field`**: a cell is read back from its field.
-/

namespace MarketQuery

namespace Number

/-- A finite number has a point or an exponent, and an infinite one letters. -/
theorem not_isDecimal_write_source {x : Binary64} (z : Int) :
    ¬ IsDecimal (write .source x).toList z := by
  cases x with
  | nan => exact not_isDecimal_of_mem (c := 'N') (by decide) (by decide) (by decide)
  | infinite negative =>
    refine not_isDecimal_of_mem (c := 'i') ?_ (by decide) (by decide)
    cases negative <;> decide
  | finite negative code =>
    have hmem {c : Char} (hc : c ∈ Style.source.writeDecimal (decimalOf .up code)) :
        c ∈ (write .source (.finite negative code)).toList := by
      rw [write, String.toList_ofList]
      cases negative with
      | true => exact List.mem_cons_of_mem _ hc
      | false => exact hc
    rcases mem_writeDecimal_source (decimalOf .up code) with hpoint | hexponent
    · exact not_isDecimal_of_mem (hmem hpoint) (by decide) (by decide)
    · exact not_isDecimal_of_mem (hmem hexponent) (by decide) (by decide)

end Number

namespace Csv

open Number

theorem ofNumberText_field_int (n : Int64) :
    Cell.ofNumberText (.ofList (field (.int n))) = .int n := by
  have hn : IsDecimal (ofInt false n.toInt) n.toInt := isDecimal_ofInt n.toInt
  have htrim : Text.TrimsTo (String.ofList (field (.int n))).toList (ofInt false n.toInt) := by
    simp only [field, cellText, intText, String.toList_ofList]
    exact hn.trimsTo
  exact Cell.ofNumberText_of (.integer htrim hn)

theorem ofNumberText_field_float {x : Binary64} (h : x ≠ .nan) :
    Cell.ofNumberText (.ofList (field (.float x))) = .float x := by
  have hnan : ¬ x.isNan = true := by
    cases x with
    | nan => exact absurd rfl h
    | infinite negative | finite negative code => exact Bool.false_ne_true
  have hfield : String.ofList (field (.float x)) = write .source x := by
    simp only [field, cellText, if_neg hnan, String.ofList_toList]
  have hread := isReal_write .source x
  rw [hfield]
  exact Cell.ofNumberText_of
    (.real hread.trimsTo (fun n => not_isDecimal_write_source n.toInt) hread)

/-- **Numbers survive saving.** From the field of an integer the same integer is read, and from that
of a number the same number, with its sign, be it zero or infinite. A gap is read from the field of
a gap, and from that of no number. -/
theorem ofNumberText_field :
    (∀ n : Int64, Cell.ofNumberText (.ofList (field (.int n))) = .int n) ∧
    (∀ x : Binary64, x ≠ .nan → Cell.ofNumberText (.ofList (field (.float x))) = .float x) ∧
    Cell.ofNumberText (.ofList (field .null)) = .null ∧
    Cell.ofNumberText (.ofList (field (.float .nan))) = .null :=
  ⟨ofNumberText_field_int, fun _ => ofNumberText_field_float, by decide, by decide⟩

/-- A whole number as great as this is saved with an exponent and no point. -/
def tenToSixteen : Binary64 := .finite false ⟨4846369599423283200, by decide⟩

theorem ofNumberText_field_tenToSixteen :
    tenToSixteen ≠ .nan ∧ field (.float tenToSixteen) = "1e16".toList ∧
      Cell.ofNumberText (.ofList (field (.float tenToSixteen))) = .float tenToSixteen ∧
      Cell.ofNumberText (.ofList (field (.int 10000000000000000))) = .int 10000000000000000 := by
  have hnan : tenToSixteen ≠ .nan := by decide
  obtain ⟨hint, hfloat, -⟩ := ofNumberText_field
  exact ⟨hnan, by decide +kernel, hfloat tenToSixteen hnan, hint 10000000000000000⟩

/-- Zero keeps its sign. -/
example : field (.float (.zero true)) = "-0.0".toList := by decide +kernel

end Csv

end MarketQuery
