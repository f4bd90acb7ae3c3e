import MarketQuery.Number.Notation
import MarketQuery.Proofs.Number.Closest

/-!
# What the shortest decimals are

The decimal that stands for a code is one of those that are nearest to its size. If the size is a
whole number with at most 53 binary digits, it is the number itself: a coarser decimal would be
another whole number, and so belong to another size.

* `Decimal.value`: the rational that a decimal is;
* `reads_iff`: the decimals that are read as a code are those nearest to its size;
* `reads_decimalOf`: and so is the one that stands for it;
* **`value_decimalOf_of_whole`**: a whole number up to `2 ^ 53` stands for itself.
-/

namespace MarketQuery.Number

open Binary64 (octave one one_pos units)

/-- The rational that a decimal is. -/
def Decimal.value (d : Decimal) : ℚ := d.digits * 10 ^ d.exponent

variable {tie : Tie} {code steps : Nat} {e e' : Int} {d : Decimal}

/-! ## Decimals that are read as a code -/

theorem gridDenominator_pos (e : Int) : 0 < gridDenominator e := Nat.pow_pos (by decide)

theorem ten_zpow_mul (e : Int) : (10 : ℚ) ^ e * gridDenominator e = (Nat.pow 10 e.toNat : ℕ) := by
  have hpow (n : ℕ) : ((Nat.pow 10 n : ℕ) : ℚ) = 10 ^ n := by exact_mod_cast rfl
  rw [gridDenominator, hpow, hpow, ← zpow_natCast, ← zpow_natCast, ← zpow_add₀ (by norm_num)]
  congr 1
  omega

/-- Twice a decimal in units, over the denominator of its grid. -/
theorem digits_mul_gridStep (d : Decimal) :
    ((d.digits * gridStep d.exponent : ℕ) : ℚ) =
      2 * (d.value * one) * gridDenominator d.exponent := by
  have h := ten_zpow_mul d.exponent
  rw [gridStep, Decimal.value]
  push_cast at h ⊢
  rw [← h]
  ring

theorem mul_gridDenominator_le_iff (n : Nat) (d : Decimal) :
    n * gridDenominator d.exponent ≤ d.digits * gridStep d.exponent ↔
      (n : ℚ) ≤ 2 * (d.value * one) := by
  have hpos : (0 : ℚ) < gridDenominator d.exponent := by
    exact_mod_cast gridDenominator_pos d.exponent
  rw [← Nat.cast_le (α := ℚ), digits_mul_gridStep, Nat.cast_mul, mul_le_mul_iff_left₀ hpos]

theorem le_mul_gridDenominator_iff (n : Nat) (d : Decimal) :
    d.digits * gridStep d.exponent ≤ n * gridDenominator d.exponent ↔
      2 * (d.value * one) ≤ (n : ℚ) := by
  have hpos : (0 : ℚ) < gridDenominator d.exponent := by
    exact_mod_cast gridDenominator_pos d.exponent
  rw [← Nat.cast_le (α := ℚ), digits_mul_gridStep, Nat.cast_mul, mul_le_mul_iff_left₀ hpos]

/-- A decimal is read as the code whose size is nearest to it. -/
theorem reads_iff : Reads code d ↔ IsNearestSize (d.value * one) code := by
  simp only [Reads]
  split
  case isTrue h =>
    rw [mul_gridDenominator_le_iff, le_mul_gridDenominator_iff]
    push_cast
    constructor
    · rintro ⟨hl, hu⟩
      exact ⟨hl, hu, fun _ => Nat.even_iff.2 h⟩
    · intro hn
      exact ⟨hn.lower, hn.upper⟩
  case isFalse h =>
    rw [← not_le, ← not_le, mul_gridDenominator_le_iff, le_mul_gridDenominator_iff]
    push_cast
    rw [not_le, not_le]
    constructor
    · rintro ⟨hl, hu⟩
      refine ⟨hl.le, hu.le, ?_⟩
      rintro (he | he)
      · exact absurd he hl.ne'
      · exact absurd he hu.ne
    · intro hn
      have hodd (he : Even code) : False := h (Nat.even_iff.1 he)
      exact ⟨lt_of_le_of_ne hn.lower fun he => hodd (hn.even (.inl he.symm)),
        lt_of_le_of_ne hn.upper fun he => hodd (hn.even (.inr he))⟩

/-! ## The decimal that stands for a code -/

/-- With as many decimals as there are binary digits behind the point, a size is written exactly. -/
theorem mul_pow_five_mul_zpow (n places : Nat) :
    ((n * Nat.pow 5 places : ℕ) : ℚ) * 10 ^ (-places : ℤ) * (2 ^ places : ℕ) = n := by
  have hten : (10 : ℚ) ^ places = 5 ^ places * 2 ^ places := by
    rw [← mul_pow]
    norm_num
  have hpow : ((Nat.pow 5 places : ℕ) : ℚ) = 5 ^ places := by exact_mod_cast rfl
  rw [Nat.cast_mul, hpow, zpow_neg, zpow_natCast, hten]
  push_cast
  field_simp

theorem value_exactly (code : Nat) : (exactly code).value * one = units code := by
  have hexponent : (-1074 : ℤ) = -(1074 : ℕ) := rfl
  rw [Binary64.one_eq, exactly, hexponent]
  generalize 1074 = places
  exact mul_pow_five_mul_zpow (units code) places

theorem reads_shortestFrom (tie : Tie) (code steps : Nat) (e : Int) :
    Reads code (shortestFrom tie code steps e) := by
  induction steps generalizing e with
  | zero =>
    rw [shortestFrom, reads_iff, value_exactly]
    exact isNearestSize_units code
  | succ steps ih =>
    rw [shortestFrom]
    cases h : onGrid? tie code e with
    | none => exact ih (e - 1)
    | some d => exact reads_of_onGrid? h

/-- The decimal that stands for a code is read as the code. -/
theorem reads_decimalOf (tie : Tie) (code : Nat) : Reads code (decimalOf tie code) := by
  rw [decimalOf]
  split
  case isTrue h =>
    have hzero : (⟨0, 0⟩ : Decimal).value * one = (units 0 : ℕ) := by
      rw [Decimal.value, Binary64.units_zero, Nat.cast_zero, zero_mul, zero_mul]
    rw [h, reads_iff, hzero]
    exact isNearestSize_units 0
  case isFalse => exact reads_shortestFrom tie code _ _

/-! ## Decimals of whole numbers -/

/-- A size on a grid is the point nearest to itself. -/
theorem onGrid?_of_value (h : d.value * one = units code) :
    onGrid? tie code d.exponent = some d := by
  have hstep : 0 < gridStep d.exponent :=
    Nat.mul_pos (Nat.pow_pos (by decide)) (Nat.mul_pos Nat.two_pos one_pos)
  have hreads : Reads code d := by
    rw [reads_iff, h]
    exact isNearestSize_units code
  have hx : 2 * units code * gridDenominator d.exponent = d.digits * gridStep d.exponent := by
    have := digits_mul_gridStep d
    rw [h] at this
    exact_mod_cast this.symm
  have hdiv : d.digits * gridStep d.exponent / gridStep d.exponent = d.digits :=
    Nat.mul_div_cancel d.digits hstep
  have hmod : d.digits * gridStep d.exponent % gridStep d.exponent = 0 := Nat.mul_mod_left ..
  simp only [onGrid?, hx, hdiv, hmod, Nat.mul_zero, if_pos hstep, if_pos hreads, ite_self]

/-- If some grid has a point that is read as the code, the first such grid is not finer. -/
theorem exists_onGrid?_shortestFrom (hgrid : (onGrid? tie code e').isSome) (hle : e' ≤ e)
    (hsteps : e - e' < steps) :
    ∃ i, e' ≤ i ∧ onGrid? tie code i = some (shortestFrom tie code steps e) := by
  induction steps generalizing e with
  | zero => omega
  | succ steps ih =>
    rw [shortestFrom]
    cases h : onGrid? tie code e with
    | some d => exact ⟨e, hle, h⟩
    | none =>
      have hne : e' ≠ e := by
        rintro rfl
        rw [h] at hgrid
        cases hgrid
      exact ih (by omega) (by omega)

theorem coarsest_nonneg {n : Nat} (hn : 0 < n) (h : units code = n * one) : 0 ≤ coarsest code := by
  have hne : units code ≠ 0 := h ▸ (Nat.mul_pos hn Binary64.one_pos).ne'
  obtain ⟨places, hplaces, hone⟩ : ∃ places, places = 1074 ∧ one = 2 ^ places :=
    ⟨_, rfl, Binary64.one_eq⟩
  have hlog : places ≤ (units code).log2 := by
    rw [Nat.le_log2 hne, h, ← hone]
    exact Nat.le_mul_of_pos_left one hn
  rw [coarsest]
  omega

/-- A whole number lies on the grid of the units. -/
theorem onGrid?_of_whole {n : Nat} (h : units code = n * one) :
    onGrid? tie code 0 = some ⟨n, 0⟩ := by
  refine onGrid?_of_value (d := ⟨n, 0⟩) ?_
  rw [h, Decimal.value, zpow_zero, mul_one]
  push_cast
  rfl

/-- So the decimal that stands for it has no places behind the point. -/
theorem exists_onGrid?_shortest {n : Nat} (hn : 0 < n) (h : units code = n * one) :
    ∃ k : Nat, onGrid? tie code k = some (shortest tie code) := by
  have hcoarsest := coarsest_nonneg hn h
  obtain ⟨i, hi, hgrid⟩ : ∃ i, 0 ≤ i ∧ onGrid? tie code i = some (shortest tie code) :=
    exists_onGrid?_shortestFrom (onGrid?_of_whole h ▸ rfl) hcoarsest (by omega)
  obtain ⟨k, rfl⟩ := Int.eq_ofNat_of_zero_le hi
  exact ⟨k, hgrid⟩

/-- Beside a whole number up to `2 ^ 53` only `2 ^ 53 + 1` may be read as it: it is halfway from
`2 ^ 53` to the next size. -/
theorem eq_or_eq_of_isNearestSize {n z : Nat} (h : IsNearestSize (z * one) code)
    (hn : n ≤ 2 * octave) (hunits : units code = n * one) : z = n ∨ z = 2 * octave + 1 := by
  rcases Nat.lt_or_ge (2 * octave) z with hz | hz
  · -- The code is that of `2 ^ 53`, the last with a grid of steps of one before it.
    obtain ⟨last, hlast⟩ : ∃ c, c = (1074 + 1) * octave + octave := ⟨_, rfl⟩
    have hsize : units last = 2 * octave * one := by
      rw [hlast, Binary64.units_whole (by decide) le_rfl, pow_one, Nat.mul_comm octave]
    have hnext : units (last + 1) = 2 * (octave + 1) * one := by
      rw [hlast, Nat.add_assoc, Binary64.units_whole (by decide) (Nat.le_succ _),
        pow_one, Nat.mul_comm (octave + 1)]
    have hcode : code = last := by
      refine le_antisymm (Binary64.strictMono_units.le_iff_le.1 ?_) (h.le_of_units_le ?_)
      · rw [hunits, hsize]
        exact Nat.mul_le_mul_right one hn
      · rw [hsize]
        exact_mod_cast Nat.mul_le_mul_right one hz.le
    have hupper : 2 * (z * one) ≤ units last + units (last + 1) := by
      exact_mod_cast hcode ▸ h.upper
    have hle : 2 * z ≤ 2 * octave + 2 * (octave + 1) := by
      refine Nat.le_of_mul_le_mul_right ?_ Binary64.one_pos
      rwa [Nat.add_mul, ← hsize, ← hnext, Nat.mul_assoc]
    omega
  · have := hunits.symm.trans (units_eq_of_le h hz)
    exact .inl (Nat.eq_of_mul_eq_mul_right Binary64.one_pos this).symm

/-- **A whole number with at most 53 binary digits stands for itself.** -/
theorem value_decimalOf_of_whole {n : Nat} (hn : n ≤ 2 * octave) (h : units code = n * one) :
    (decimalOf tie code).value = n := by
  rcases Nat.eq_zero_or_pos n with rfl | hpos
  · have hcode : code = 0 := by
      by_contra hne
      have := Binary64.units_pos hne
      omega
    rw [decimalOf, if_pos hcode, Decimal.value, Nat.cast_zero, zero_mul]
  · have hcode : code ≠ 0 := by
      rintro rfl
      exact (Nat.mul_pos hpos Binary64.one_pos).ne h
    obtain ⟨k, hgrid⟩ : ∃ k : ℕ, onGrid? tie code k = some (shortest tie code) :=
      exists_onGrid?_shortest hpos h
    obtain ⟨hexponent, hreads⟩ := onGrid?_inv hgrid
    have hvalue : (shortest tie code).value = ((shortest tie code).digits * 10 ^ k : ℕ) := by
      rw [Decimal.value, hexponent]
      push_cast
      rw [zpow_natCast]
    rw [reads_iff, hvalue] at hreads
    rw [decimalOf, if_neg hcode, hvalue]
    rcases eq_or_eq_of_isNearestSize hreads hn h with hz | hz
    · rw [hz]
    · -- `2 ^ 53 + 1` is no multiple of ten, and among the units the number itself is nearer.
      cases k with
      | zero =>
        rw [Option.some.inj (hgrid.symm.trans (onGrid?_of_whole h)), pow_zero, mul_one]
      | succ k =>
        rw [Nat.pow_succ, ← Nat.mul_assoc] at hz
        simp only [octave] at hz
        omega

end MarketQuery.Number
