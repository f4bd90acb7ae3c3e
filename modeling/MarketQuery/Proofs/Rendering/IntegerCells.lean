import MarketQuery.Proofs.Number.ShortestDecimal
import MarketQuery.Proofs.Number.Whole
import MarketQuery.Proofs.Rendering.NumericColumn
import MarketQuery.Proofs.Rendering.Truncation

/-!
# Integers in columns

An integer is shown with its digits, unless its column has fractions or gaps among numbers alone.
There it becomes the closest number of 64 bits, which is another one for most integers beyond
`2 ^ 53`, and is then shown like any other number of the column.

* `exists_closest`: the number that an integer becomes;
* `write_display_int`, `exists_write_decimals_int`, `exists_write_scientific_int`: an integer in the
  three ways to write a column;
* **`Table.integer_shown`**: which integers are shown exactly, and how the others are shown.
-/

namespace MarketQuery

namespace Rendering

open Number
open Binary64 (one units codeBound)

variable {n : Int64} {cells : List Cell}

/-! ## The number that an integer becomes -/

theorem withSign_natAbs (n : Int64) :
    withSign (decide (n.toInt < 0)) (n.toInt.natAbs : ℚ) = n.toInt := by
  rw [Nat.cast_natAbs, Int.cast_abs]
  by_cases h : n.toInt < 0
  · have : (n.toInt : ℚ) < 0 := by exact_mod_cast h
    rw [decide_eq_true h, withSign, if_pos rfl, abs_of_neg this, neg_neg]
  · have : (0 : ℚ) ≤ n.toInt := by exact_mod_cast not_lt.1 h
    rw [decide_eq_false h, withSign, if_neg (by decide), abs_of_nonneg this]

/-- An integer becomes the closest number, which is a whole number and up to `2 ^ 53` the integer
itself. -/
theorem exists_closest (n : Int64) : ∃ (code : Fin codeBound) (m : ℕ),
    Binary64.ofInt n.toInt = .finite (decide (n.toInt < 0)) code ∧ units code = m * one ∧
      (Binary64.finite (decide (n.toInt < 0)) code).IsClosest
        (withSign (decide (n.toInt < 0)) (units code / one)) n.toInt ∧
      (n.toInt.natAbs ≤ 2 ^ 53 → m = n.toInt.natAbs) := by
  obtain ⟨code, hcode, hnearest⟩ := exists_ofInt n
  obtain ⟨m, hm⟩ := one_dvd_units_of_isNearestSize hnearest
  rw [Nat.mul_comm] at hm
  refine ⟨code, m, hcode, hm, ?_, fun hle => ?_⟩
  · have hclosest := isClosest_of_isNearestSize (Nat.cast_nonneg _) hnearest (decide (n.toInt < 0))
    rwa [withSign_natAbs] at hclosest
  · have := hm.symm.trans (units_eq_of_le hnearest hle)
    exact Nat.eq_of_mul_eq_mul_right Binary64.one_pos this

/-! ## Integers in the three ways -/

theorem write_display_int (n : Int64) : (ColumnFormat.display 0).write (.int n) = intText n :=
  truncate_of_fits (.inl rfl)

theorem exists_write_decimals_int (n : Int64) (d : Nat) :
    ∃ (b : Binary64) (negative : Bool) (m : ℕ),
      IsPlain ((ColumnFormat.decimals d).write (.int n)) negative m ∧
      b.IsClosest (withSign negative m) n.toInt ∧
      (n.toInt.natAbs ≤ 2 ^ 53 → withSign negative (m : ℚ) = n.toInt) := by
  obtain ⟨code, m, hcode, hm, hclosest, hself⟩ := exists_closest n
  have hone : (one : ℚ) ≠ 0 := by exact_mod_cast Binary64.one_pos.ne'
  rw [hm, Nat.cast_mul, mul_div_cancel_right₀ _ hone] at hclosest
  refine ⟨_, _, m, ?_, hclosest, fun hle => by rw [hself hle, withSign_natAbs]⟩
  rw [ColumnFormat.write, Cell.toBinary64?, Option.getD_some, hcode]
  exact isPlain_fixed hm d _

/-- With an exponent an integer is shown as a decimal that is read as the number it becomes. -/
theorem exists_write_scientific_int (n : Int64) :
    ∃ (b : Binary64) (y x : ℚ),
      denoted? (ColumnFormat.scientific.write (.int n)) = some x ∧
      b.IsClosest y n.toInt ∧ b.IsClosest y x ∧ (n.toInt.natAbs ≤ 2 ^ 53 → x = n.toInt) := by
  obtain ⟨code, m, hcode, hm, hclosest, hself⟩ := exists_closest n
  obtain ⟨numeral, hread, hvalue⟩ := numeral?_scientific (decide (n.toInt < 0)) code
  have hdecimal : numeral.value = (decimalOf .up code.val).value := hvalue
  have hnonneg : 0 ≤ (decimalOf .up code.val).value := by
    rw [Decimal.value]
    exact mul_nonneg (Nat.cast_nonneg _) (zpow_nonneg (by norm_num) _)
  refine ⟨_, _, withSign (decide (n.toInt < 0)) (decimalOf .up code.val).value, ?_, hclosest,
    isClosest_of_isNearestSize hnonneg (reads_iff.1 (reads_decimalOf .up code)) _, fun hle => ?_⟩
  · rw [ColumnFormat.write, Cell.toBinary64?, Option.getD_some, hcode, denoted?, hread,
      Option.map_some]
    simp only [hdecimal]
  · rw [hself hle] at hm
    rw [value_decimalOf_of_whole hle hm, withSign_natAbs]

theorem mem_write_scientific_int (n : Int64) :
    'e' ∈ (ColumnFormat.scientific.write (.int n)).toList := by
  obtain ⟨code, -, hcode, -⟩ := exists_closest n
  exact mem_write_scientific (rational?_eq_some_iff.2 ⟨_, congrArg some hcode, rfl⟩)

/-! ## Integers in tables -/

/-- Without a fraction or a gap, or with a cell that is no number, cells are shown as they are. -/
theorem choose_of_not_mixed (limit : Nat) (h : ¬ ((∀ c ∈ cells, isNumeric c = true) ∧
    ∃ c ∈ cells, isFractional c = true)) : ColumnFormat.choose limit cells = .display limit := by
  rw [ColumnFormat.choose, if_neg]
  rw [Bool.and_eq_true, Bool.and_eq_true, List.all_eq_true, List.any_eq_true]
  exact fun hc => h hc.1

end Rendering

namespace Table

open Rendering Number

variable {t : Table} {index number : Nat} {n : Int64}

theorem exists_shownAt_of_cell {c : Cell} (limit : Nat)
    (h : t.rows[number]?.bind (·[index]?) = some c) :
    index < t.columnCount ∧ ∃ s, t.ShownAt limit number index c s := by
  obtain ⟨row, hrow, hcell⟩ := Option.bind_eq_some_iff.1 h
  have hi : index < t.columnCount :=
    lt_of_lt_of_eq (List.getElem?_eq_some_iff.1 hcell).1 (t.width row (List.mem_of_getElem? hrow))
  have hnumber : number < t.rowCount := (List.getElem?_eq_some_iff.1 hrow).1
  obtain ⟨c', s, hs⟩ : ∃ c' s, t.ShownAt limit number index c' s := exists_shownAt hi hnumber
  obtain rfl := Option.some.inj (hs.cell.symm.trans h)
  exact ⟨hi, s, hs⟩

/-- **Integers are shown exactly unless they go through a number of 64 bits that cannot hold them.**
Each is shown as a numeral, without a limit to its width. It denotes the integer if this is at most
`2 ^ 53`, and for every integer of a column without fractions and gaps or with a cell that is no
number. In a column of numbers with a fraction or a gap it denotes the closest number of 64 bits,
and with an exponent a rational to which this number is the closest. -/
theorem integer_shown (h : t.rows[number]?.bind (·[index]?) = some (.int n)) :
    ∃ s x, t.ShownAt 0 number index (.int n) s ∧ denoted? s = some x ∧
      ((∃ negative m, IsPlain s negative m) ∨ 'e' ∈ s.toList) ∧
      (n.toInt.natAbs ≤ 2 ^ 53 ∨ (∀ c ∈ t.column index, isFractional c = false) ∨
        (∃ c ∈ t.column index, isNumeric c = false) → x = n.toInt) ∧
      ((∀ c ∈ t.column index, isNumeric c = true) →
        (∃ c ∈ t.column index, isFractional c = true) →
        ∃ b y, Binary64.IsClosest b y n.toInt ∧ ('e' ∉ s.toList → x = y) ∧
          ('e' ∈ s.toList → b.IsClosest y x)) := by
  obtain ⟨hi, s, hs⟩ := exists_shownAt_of_cell 0 h
  obtain ⟨hcell, htext⟩ := (shownAt_iff hi).1 hs
  have hmem : .int n ∈ t.column index := List.mem_of_getElem? hcell
  by_cases hmixed : (∀ c ∈ t.column index, isNumeric c = true) ∧
    ∃ c ∈ t.column index, isFractional c = true
  · obtain ⟨hnumeric, hfractional⟩ := hmixed
    -- Of the three reasons for an exact text such a column leaves only the first.
    have hsmall (hexact : n.toInt.natAbs ≤ 2 ^ 53 ∨ (∀ c ∈ t.column index, isFractional c = false) ∨
        ∃ c ∈ t.column index, isNumeric c = false) : n.toInt.natAbs ≤ 2 ^ 53 := by
      rcases hexact with hle | hnone | ⟨c, hc, hother⟩
      · exact hle
      · obtain ⟨c, hc, hfraction⟩ := hfractional
        exact absurd hfraction (by rw [hnone c hc]; decide)
      · exact absurd (hnumeric c hc) (by rw [hother]; decide)
    have hnumber : ∃ c ∈ t.column index, c ≠ .null := ⟨_, hmem, nofun⟩
    by_cases hvanishes : SomeVanishes (t.column index)
    · rw [choose_of_vanishes hnumeric hfractional hnumber hvanishes] at htext
      obtain ⟨b, y, x, hx, hclosest, hread, hexact⟩ := exists_write_scientific_int n
      have he : 'e' ∈ s.toList := htext ▸ mem_write_scientific_int n
      exact ⟨s, x, hs, htext ▸ hx, .inr he, fun h => hexact (hsmall h),
        fun _ _ => ⟨b, y, hclosest, fun h => absurd he h, fun _ => hread⟩⟩
    · rw [choose_of_not_vanishes hnumeric hfractional hnumber hvanishes] at htext
      obtain ⟨b, negative, m, hplain, hclosest, hexact⟩ := exists_write_decimals_int n _
      rw [← htext] at hplain
      exact ⟨s, _, hs, denoted?_of_isPlain hplain, .inl ⟨negative, m, hplain⟩,
        fun h => hexact (hsmall h),
        fun _ _ => ⟨b, _, hclosest, fun _ => rfl, fun h => absurd h (notMem_of_isPlain hplain)⟩⟩
  · rw [choose_of_not_mixed 0 hmixed, write_display_int] at htext
    have hplain : IsPlain s _ _ := htext ▸ isPlain_intText n
    refine ⟨s, _, hs, denoted?_of_isPlain hplain, .inl ⟨_, _, hplain⟩,
      fun _ => withSign_natAbs n, fun hnumeric hfractional => absurd ⟨hnumeric, hfractional⟩ hmixed⟩

/-- The first integer that is no number of 64 bits, beside a gap. -/
def besideGap : Table where
  columns := ["n"]
  rows := [[.int 9007199254740993], [.null]]
  nodup := by decide
  width := by decide

theorem besideGap_shownAt :
    besideGap.ShownAt 0 0 0 (.int 9007199254740993) "9007199254740992.0" :=
  (shownAt_iff (by decide)).2 ⟨rfl, by decide +kernel⟩

theorem isPlain_besideGap : IsPlain "9007199254740992.0" false 9007199254740992 :=
  ⟨1, by decide +kernel⟩

theorem integer_shown_besideGap :
    besideGap.rows[0]?.bind (·[0]?) = some (.int 9007199254740993) ∧
      ∃ b y, Binary64.IsClosest b y (9007199254740993 : Int64).toInt ∧
        denoted? "9007199254740992.0" = some y := by
  have hcell : besideGap.rows[0]?.bind (·[0]?) = some (.int 9007199254740993) := rfl
  obtain ⟨s, x, hs, hx, -, -, hmixed⟩ := integer_shown hcell
  obtain rfl : s = "9007199254740992.0" :=
    Option.some.inj (hs.text.symm.trans besideGap_shownAt.text)
  obtain ⟨b, y, hclosest, hvalue, -⟩ := hmixed (by decide) (by decide)
  exact ⟨hcell, b, y, hclosest, hvalue (notMem_of_isPlain isPlain_besideGap) ▸ hx⟩

/-- Beside a gap `2 ^ 53 + 1` is shown as `2 ^ 53`. -/
theorem besideGap_not_exact :
    besideGap.ShownAt 0 0 0 (.int 9007199254740993) "9007199254740992.0" ∧
      denoted? "9007199254740992.0" ≠ some ((9007199254740993 : Int64).toInt : ℚ) := by
  refine ⟨besideGap_shownAt, ?_⟩
  have hvalue : (9007199254740993 : Int64).toInt = 9007199254740993 := by decide
  rw [denoted?_of_isPlain isPlain_besideGap, hvalue, withSign]
  norm_num

end Table

end MarketQuery
