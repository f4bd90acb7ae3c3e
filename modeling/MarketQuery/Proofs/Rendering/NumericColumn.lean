import MarketQuery.Proofs.Number.Exact
import MarketQuery.Proofs.Rendering.Layout

/-!
# Columns of numbers

A column of numbers with fractions or gaps is shown with one count of decimals. What is shown is
each number rounded to six places, however many are shown, as the count is great enough for all of
them.

* `vanishes_iff`: the numbers that would be shown as zero;
* `Suffices`, `decimalsNeeded_le_iff`: the counts of decimals that show a number as six do;
* `choose_of_numeric`: how such a column is shown;
* `Table.ShownAt`, `Table.shownAt_iff`: the text of a cell in a table for a reader;
* **`numeric_column_lossless`**: nothing is lost beyond six places.
-/

namespace MarketQuery

namespace Rendering

open Number

variable {b : Binary64} {x : ℚ} {d : Nat}

/-! ## Numbers shown as zero -/

theorem inPlaces_eq_zero_iff {negative : Bool} {code : Nat} :
    inPlaces precision code = 0 ↔
      Rounds precision (withSign negative (Binary64.units code / Binary64.one)) 0 := by
  have hrounds := (rounds_inPlaces precision code).withSign negative
  constructor
  · intro h
    rwa [h, Nat.cast_zero, zero_div, withSign_eq_zero_iff.2 rfl] at hrounds
  · intro h
    have hzero := withSign_eq_zero_iff.1 (hrounds.unique h)
    have hpos : (10 : ℚ) ^ precision ≠ 0 := by positivity
    exact_mod_cast (div_eq_zero_iff.1 hzero).resolve_right hpos

theorem vanishes_iff (hx : b.rational? = some x) :
    vanishes b = true ↔ x ≠ 0 ∧ Rounds precision x 0 := by
  obtain ⟨negative, code, rfl, rfl⟩ := Binary64.rational?_eq_some_iff.1 hx
  have hzero : withSign negative ((Binary64.units code : ℚ) / Binary64.one) = 0 ↔ code.val = 0 := by
    rw [withSign_eq_zero_iff, div_eq_zero_iff]
    constructor
    · rintro (h | h)
      · by_contra hcode
        exact (Binary64.units_pos hcode).ne' (by exact_mod_cast h)
      · exact absurd (by exact_mod_cast h) Binary64.one_pos.ne'
    · intro h
      rw [h, Binary64.units_zero]
      exact .inl rfl
  rw [vanishes, Bool.and_eq_true, decide_eq_true_iff, decide_eq_true_iff, inPlaces_eq_zero_iff, Ne,
    Ne, hzero]

/-! ## Counts of decimals -/

/-- Rounding to so many places gives what rounding to all of them gives. -/
def Suffices (d : Nat) (x : ℚ) : Prop := ∀ q, Rounds d x q → Rounds precision x q

theorem suffices_iff_dvd {negative : Bool} {code : Nat} (hd : d ≤ precision) :
    Suffices d (withSign negative (Binary64.units code / Binary64.one)) ↔
      10 ^ (precision - d) ∣ inPlaces precision code := by
  have hpow : (10 : ℚ) ^ precision = 10 ^ d * 10 ^ (precision - d) := by
    rw [← pow_add, Nat.add_sub_cancel' hd]
  have hall := rounds_inPlaces precision code
  constructor
  · intro h
    have hfewer := h _ ((rounds_inPlaces d code).withSign negative)
    have hvalue := withSign_inj.1 ((hall.withSign negative).unique hfewer)
    rw [hpow, div_mul_eq_div_div_swap] at hvalue
    have hdigits : (inPlaces precision code : ℚ) = 10 ^ (precision - d) * inPlaces d code := by
      field_simp at hvalue
      linarith
    exact ⟨inPlaces d code, by exact_mod_cast hdigits⟩
  · rintro ⟨k, hk⟩ q hq
    have hvalue : (inPlaces precision code : ℚ) / 10 ^ precision = (k : ℤ) / 10 ^ d := by
      rw [hk, hpow]
      push_cast
      field_simp
    rw [hq.unique ((hall.of_le hd hvalue).withSign negative)]
    exact hall.withSign negative

theorem decide_mod_pow_iff {n e : Nat} :
    decide (n % Nat.pow 10 (precision - e) = 0) = true ↔ 10 ^ (precision - e) ∣ n :=
  decide_eq_true_iff.trans Nat.dvd_iff_mod_eq_zero.symm

theorem decimalsNeeded_le_iff_dvd {negative : Bool} {code : Fin Binary64.codeBound}
    (hd : d ≤ precision) :
    decimalsNeeded (.finite negative code) ≤ d ↔
      10 ^ (precision - d) ∣ inPlaces precision code := by
  simp only [decimalsNeeded]
  generalize inPlaces precision code = n
  cases hfind : (List.range precision).find? fun e => n % Nat.pow 10 (precision - e) = 0 with
  | none =>
    rw [List.find?_range_eq_none] at hfind
    constructor
    · intro h
      obtain rfl : precision = d := le_antisymm h hd
      exact ⟨n, by simp⟩
    · intro h
      by_contra hlt
      have := hfind d (not_le.1 hlt)
      rw [decide_mod_pow_iff.2 h] at this
      cases this
  | some e =>
    obtain ⟨he, -, hleast⟩ := List.find?_range_eq_some.1 hfind
    constructor
    · intro h
      exact (Nat.pow_dvd_pow 10 (Nat.sub_le_sub_left h precision)).trans
        (decide_mod_pow_iff.1 he)
    · intro h
      by_contra hlt
      have := hleast d (not_le.1 hlt)
      rw [decide_mod_pow_iff.2 h] at this
      cases this

theorem decimalsNeeded_le_precision (b : Binary64) : decimalsNeeded b ≤ precision := by
  cases b with
  | finite negative code =>
    exact (decimalsNeeded_le_iff_dvd le_rfl).2 ⟨inPlaces precision code, by simp⟩
  | _ => exact Nat.zero_le _

theorem decimalsNeeded_le_iff (hx : b.rational? = some x) (hd : d ≤ precision) :
    decimalsNeeded b ≤ d ↔ Suffices d x := by
  obtain ⟨negative, code, rfl, rfl⟩ := Binary64.rational?_eq_some_iff.1 hx
  rw [decimalsNeeded_le_iff_dvd hd, suffices_iff_dvd hd]

/-! ## Formats of columns -/

/-- The rational in a cell, if there is a finite number. -/
def rational? (c : Cell) : Option ℚ := c.toBinary64?.bind Binary64.rational?

theorem rational?_eq_some_iff {c : Cell} :
    rational? c = some x ↔ ∃ b, c.toBinary64? = some b ∧ b.rational? = some x :=
  Option.bind_eq_some_iff

/-- A cell with a number other than zero that rounds to zero. -/
def SomeVanishes (cells : List Cell) : Prop :=
  ∃ c ∈ cells, ∃ x, rational? c = some x ∧ x ≠ 0 ∧ Rounds precision x 0

variable {cells : List Cell}

theorem any_vanishes_iff :
    (cells.filterMap Cell.toBinary64?).any vanishes = true ↔ SomeVanishes cells := by
  simp only [List.any_eq_true, List.mem_filterMap]
  constructor
  · rintro ⟨b, ⟨c, hc, hb⟩, hv⟩
    cases b with
    | finite negative code =>
      exact ⟨c, hc, _, rational?_eq_some_iff.2 ⟨_, hb, rfl⟩, (vanishes_iff rfl).1 hv⟩
    | _ => cases hv
  · rintro ⟨c, hc, x, hx, hv⟩
    obtain ⟨b, hb, hx⟩ := rational?_eq_some_iff.1 hx
    exact ⟨b, ⟨c, hc, hb⟩, (vanishes_iff hx).2 hv⟩

/-- The count of decimals that a column is shown with. -/
def sharedDecimals (cells : List Cell) : Nat :=
  ((cells.filterMap Cell.toBinary64?).map decimalsNeeded).foldl max 1

theorem sharedDecimals_le_iff (hd : d ≤ precision) :
    sharedDecimals cells ≤ d ↔
      1 ≤ d ∧ ∀ c ∈ cells, ∀ x, rational? c = some x → Suffices d x := by
  rw [sharedDecimals, foldl_max_le_iff]
  simp only [List.mem_map, List.mem_filterMap, forall_exists_index, and_imp]
  refine and_congr_right fun hpos => ⟨fun h c hc x hx => ?_, fun h n b c hc hb hn => ?_⟩
  · obtain ⟨b, hb, hx⟩ := rational?_eq_some_iff.1 hx
    exact (decimalsNeeded_le_iff hx hd).1 (h _ b c hc hb rfl)
  · subst hn
    cases b with
    | finite negative code =>
      exact (decimalsNeeded_le_iff rfl hd).2 (h c hc _ (rational?_eq_some_iff.2 ⟨_, hb, rfl⟩))
    | _ => exact Nat.zero_le _

theorem sharedDecimals_le_precision (cells : List Cell) : sharedDecimals cells ≤ precision := by
  refine foldl_max_le_iff.2 ⟨by decide, fun n hn => ?_⟩
  obtain ⟨b, -, rfl⟩ := List.mem_map.1 hn
  exact decimalsNeeded_le_precision b

section Formats

variable (hnumeric : ∀ c ∈ cells, isNumeric c = true)
  (hfractional : ∃ c ∈ cells, isFractional c = true) (hnumber : ∃ c ∈ cells, c ≠ .null)
include hnumeric hfractional hnumber

theorem choose_of_numeric (limit : Nat) :
    ColumnFormat.choose limit cells =
      if (cells.filterMap Cell.toBinary64?).any vanishes then .scientific
      else .decimals (sharedDecimals cells) := by
  have hnull : cells.any (!·.isNull) = true := by
    obtain ⟨c, hc, hne⟩ := hnumber
    refine List.any_eq_true.2 ⟨c, hc, ?_⟩
    cases c with
    | null => exact absurd rfl hne
    | _ => rfl
  rw [ColumnFormat.choose, List.all_eq_true.2 hnumeric, List.any_eq_true.2 hfractional, hnull]
  rfl

theorem choose_of_vanishes (h : SomeVanishes cells) (limit : Nat) :
    ColumnFormat.choose limit cells = .scientific := by
  rw [choose_of_numeric hnumeric hfractional hnumber, if_pos (any_vanishes_iff.2 h)]

theorem choose_of_not_vanishes (h : ¬ SomeVanishes cells) (limit : Nat) :
    ColumnFormat.choose limit cells = .decimals (sharedDecimals cells) := by
  rw [choose_of_numeric hnumeric hfractional hnumber, if_neg (any_vanishes_iff.not.2 h)]

end Formats

/-! ## Cells of columns -/

variable {c : Cell}

theorem mem_write_scientific (hx : rational? c = some x) :
    'e' ∈ (ColumnFormat.scientific.write c).toList := by
  obtain ⟨b, hb, hx⟩ := rational?_eq_some_iff.1 hx
  obtain ⟨negative, code, rfl, rfl⟩ := Binary64.rational?_eq_some_iff.1 hx
  rw [ColumnFormat.write, hb]
  exact Number.mem_write_scientific negative code

theorem sign_write_scientific (hx : rational? c = some x) (h : x ≠ 0) :
    ∃ q, denoted? (ColumnFormat.scientific.write c) = some q ∧
      SignType.sign q = SignType.sign x := by
  obtain ⟨b, hb, hx⟩ := rational?_eq_some_iff.1 hx
  rw [ColumnFormat.write, hb]
  exact sign_of_scientific hx h

theorem notMem_write_decimals (hx : rational? c = some x) (d : Nat) :
    'e' ∉ ((ColumnFormat.decimals d).write c).toList := by
  obtain ⟨b, hb, hx⟩ := rational?_eq_some_iff.1 hx
  obtain ⟨negative, code, rfl, rfl⟩ := Binary64.rational?_eq_some_iff.1 hx
  rw [ColumnFormat.write, hb]
  exact notMem_fixed d negative code

theorem rounds_write_decimals (hx : rational? c = some x) (hd : Suffices d x) :
    ∃ negative n, numeral? ((ColumnFormat.decimals d).write c) = some (negative, n) ∧
      n.fraction.length = d ∧ Rounds precision x (withSign negative n.value) := by
  obtain ⟨b, hb, hx⟩ := rational?_eq_some_iff.1 hx
  obtain ⟨negative, n, hn, hlength, hrounds⟩ := rounds_of_fixed hx d
  refine ⟨negative, n, ?_, hlength, hd _ hrounds⟩
  rw [ColumnFormat.write, hb]
  exact hn

theorem suffices_sharedDecimals {cells : List Cell} (hc : c ∈ cells) (hx : rational? c = some x) :
    Suffices (sharedDecimals cells) x :=
  ((sharedDecimals_le_iff (sharedDecimals_le_precision cells)).1 le_rfl).2 c hc x hx

end Rendering

open Rendering Number

/-! ## Tables for a reader -/

namespace Table

variable {t : Table} {limit index number : Nat} {c : Cell} {s : String}

/-- The cell in a row and a column of a table is shown as the text. -/
structure ShownAt (t : Table) (limit number index : Nat) (c : Cell) (s : String) : Prop where
  cell : t.rows[number]?.bind (·[index]?) = some c
  text : (t.fields limit)[number + 1]?.bind (·[index]?) = some s

theorem shownAt_iff (hi : index < t.columnCount) :
    t.ShownAt limit number index c s ↔
      (t.column index)[number]? = some c ∧
        s = (ColumnFormat.choose limit (t.column index)).write c := by
  have htext : (t.fields limit)[number + 1]? =
      t.rows[number]?.map (List.zipWith ColumnFormat.write (t.formats limit)) := by
    rw [fields, List.getElem?_cons_succ, List.getElem?_map]
  cases hrow : t.rows[number]? with
  | none =>
    refine iff_of_false (fun h => ?_) (by simp [column, hrow])
    have := h.cell
    rw [hrow] at this
    cases this
  | some row =>
    have hmem : row ∈ t.rows := List.mem_of_getElem? hrow
    have hlt : index < row.length := t.width row hmem ▸ hi
    have hcell : t.rows[number]?.bind (·[index]?) = some row[index] := by
      rw [hrow, Option.bind_some, List.getElem?_eq_getElem hlt]
    have hshown : (t.fields limit)[number + 1]?.bind (·[index]?) =
        some ((ColumnFormat.choose limit (t.column index)).write row[index]) := by
      rw [htext, hrow, Option.map_some, Option.bind_some, zipWith_formats hmem]
      simp [hi, hlt]
    have hcolumn : (t.column index)[number]? = some row[index] := by
      simp [column, hrow, hlt]
    rw [hcolumn]
    constructor
    · rintro ⟨hc, hs⟩
      obtain rfl := Option.some.inj (hcell.symm.trans hc)
      exact ⟨rfl, (Option.some.inj (hshown.symm.trans hs)).symm⟩
    · rintro ⟨⟨⟩, rfl⟩
      exact ⟨hcell, hshown⟩

theorem exists_shownAt (hi : index < t.columnCount) (hn : number < t.rowCount) :
    ∃ c s, t.ShownAt limit number index c s := by
  have hlt : number < (t.column index).length := by rwa [column, List.length_map]
  exact ⟨_, _, (shownAt_iff hi).2 ⟨List.getElem?_eq_getElem hlt, rfl⟩⟩

theorem exists_shownAt_of_mem (limit : Nat) (hi : index < t.columnCount) (hc : c ∈ t.column index) :
    ∃ number s, t.ShownAt limit number index c s := by
  obtain ⟨number, hn⟩ := List.mem_iff_getElem?.1 hc
  exact ⟨number, _, (shownAt_iff hi).2 ⟨hn, rfl⟩⟩

/-- **A column of numbers with fractions or gaps loses nothing beyond six decimals.** It is shown
with exponents just if one of its numbers would vanish at six places. Else all are shown with one
count of decimals, the least with which each is shown rounded to six places. A number other than
zero is never shown as zero or with another sign. -/
theorem numeric_column_lossless (hi : index < t.columnCount)
    (hnumeric : ∀ c ∈ t.column index, isNumeric c = true)
    (hfractional : ∃ c ∈ t.column index, isFractional c = true)
    (hnumber : ∃ c ∈ t.column index, c ≠ .null) (limit : Nat) :
    (∀ number < t.rowCount, ∃ c s, t.ShownAt limit number index c s) ∧
    ((∃ number c s x, t.ShownAt limit number index c s ∧ rational? c = some x ∧ 'e' ∈ s.toList) ↔
      SomeVanishes (t.column index)) ∧
    (SomeVanishes (t.column index) → ∀ number c s x, t.ShownAt limit number index c s →
      rational? c = some x → 'e' ∈ s.toList) ∧
    (¬ SomeVanishes (t.column index) → ∃ d, 1 ≤ d ∧ d ≤ 6 ∧
      (∀ number c s x, t.ShownAt limit number index c s → rational? c = some x →
        ∃ negative n, numeral? s = some (negative, n) ∧ n.fraction.length = d ∧
          Rounds 6 x (withSign negative n.value)) ∧
      ∀ d', 1 ≤ d' → (∀ c ∈ t.column index, ∀ x, rational? c = some x → ∀ q, Rounds d' x q →
        Rounds 6 x q) → d ≤ d') ∧
    ∀ number c s x, t.ShownAt limit number index c s → rational? c = some x → x ≠ 0 →
      ∃ q, denoted? s = some q ∧ SignType.sign q = SignType.sign x := by
  have hmem {number c s} (h : t.ShownAt limit number index c s) : c ∈ t.column index :=
    List.mem_of_getElem? ((shownAt_iff hi).1 h).1
  by_cases hvanishes : SomeVanishes (t.column index)
  · have hchoose := choose_of_vanishes hnumeric hfractional hnumber hvanishes limit
    have htext {number c s} (h : t.ShownAt limit number index c s) :
        s = ColumnFormat.scientific.write c := hchoose ▸ ((shownAt_iff hi).1 h).2
    refine ⟨fun number => exists_shownAt hi, iff_of_true ?_ hvanishes,
      fun _ number c s x h hx => ?_, absurd hvanishes, fun number c s x h hx hne => ?_⟩
    · obtain ⟨c, hc, x, hx, -⟩ := hvanishes
      obtain ⟨number, s, h⟩ := exists_shownAt_of_mem limit hi hc
      exact ⟨number, c, s, x, h, hx, htext h ▸ mem_write_scientific hx⟩
    · exact htext h ▸ mem_write_scientific hx
    · exact htext h ▸ sign_write_scientific hx hne
  · have hchoose := choose_of_not_vanishes hnumeric hfractional hnumber hvanishes limit
    have htext {number c s} (h : t.ShownAt limit number index c s) :
        s = (ColumnFormat.decimals (sharedDecimals (t.column index))).write c :=
      hchoose ▸ ((shownAt_iff hi).1 h).2
    have hshown {number c s x} (h : t.ShownAt limit number index c s) (hx : rational? c = some x) :
        ∃ negative n, numeral? s = some (negative, n) ∧
          n.fraction.length = sharedDecimals (t.column index) ∧
          Rounds precision x (withSign negative n.value) :=
      htext h ▸ rounds_write_decimals hx (suffices_sharedDecimals (hmem h) hx)
    have hone : 1 ≤ sharedDecimals (t.column index) :=
      ((sharedDecimals_le_iff (sharedDecimals_le_precision _)).1 le_rfl).1
    refine ⟨fun number => exists_shownAt hi, iff_of_false ?_ hvanishes,
      fun h => absurd h hvanishes,
      fun _ => ⟨_, hone, sharedDecimals_le_precision _, fun number c s x h hx => hshown h hx,
        fun d' hpos h => ?_⟩,
      fun number c s x h hx hne => ?_⟩
    · rintro ⟨number, c, s, x, h, hx, he⟩
      exact notMem_write_decimals hx _ (htext h ▸ he)
    · rcases le_total d' precision with hle | hle
      · exact (sharedDecimals_le_iff hle).2 ⟨hpos, h⟩
      · exact (sharedDecimals_le_precision _).trans hle
    · obtain ⟨negative, n, hn, -, hrounds⟩ := hshown h hx
      refine ⟨withSign negative n.value, by rw [denoted?, hn]; rfl, hrounds.sign_eq fun hzero => ?_⟩
      exact hvanishes ⟨c, hmem h, x, hx, hne, hzero ▸ hrounds⟩

/-- An integer, a gap, an eighth, and `-0.0078125` with its tie at six places. -/
def gaps : Table where
  columns := ["x"]
  rows := [[.int 1], [.null], [.float (.finite false ⟨4593671619917905920, by decide⟩)],
    [.float (.finite true ⟨4575657221408423936, by decide⟩)]]
  nodup := by decide
  width := by decide

theorem numeric_column_lossless_gaps :
    0 < gaps.columnCount ∧ (∀ c ∈ gaps.column 0, isNumeric c = true) ∧
      (∃ c ∈ gaps.column 0, isFractional c = true) ∧ (∃ c ∈ gaps.column 0, c ≠ .null) ∧
      gaps.render 30 = "        x\n 1.000000\n      NaN\n 0.125000\n-0.007812" ∧
      ∃ d, 1 ≤ d ∧ d ≤ 6 ∧ ∀ number c s x, gaps.ShownAt 30 number 0 c s → rational? c = some x →
        ∃ negative n, numeral? s = some (negative, n) ∧ n.fraction.length = d ∧
          Rounds 6 x (withSign negative n.value) := by
  have hi : 0 < gaps.columnCount := by decide
  have hnumeric : ∀ c ∈ gaps.column 0, isNumeric c = true := by decide
  have hfractional : ∃ c ∈ gaps.column 0, isFractional c = true := ⟨.null, by decide, rfl⟩
  have hnumber : ∃ c ∈ gaps.column 0, c ≠ .null := ⟨.int 1, by decide, by decide⟩
  have hvanishes : ¬ SomeVanishes (gaps.column 0) := any_vanishes_iff.not.1 (by decide +kernel)
  obtain ⟨d, hpos, hle, hshown, -⟩ :=
    (numeric_column_lossless hi hnumeric hfractional hnumber 30).2.2.2.1 hvanishes
  exact ⟨hi, hnumeric, hfractional, hnumber, by decide +kernel, d, hpos, hle, hshown⟩

end Table

end MarketQuery
