import Mathlib.Algebra.Order.Field.Power
import MarketQuery.Proofs.Number.Numerals
import MarketQuery.Proofs.Number.ShortestDecimal

/-!
# The number nearest to a decimal

A decimal gives the code of the size nearest to it, also where its power of ten is not computed:
from `10 ^ 400` on the nearest code is beyond the finite ones, and below `10 ^ (-400)` it is zero.

* `ofRatio_eq_ofCode`: the number nearest to a quotient;
* `codeBound_le_of_isNearestSize`, `eq_zero_of_isNearestSize`: decimals that are far too great or
  too small;
* `exists_isNearestSize`: every decimal has a nearest size;
* **`ofDecimal_eq_ofCode`**: the number nearest to any decimal;
* `Numeral.toBinary64_eq_ofCode`: and so to any numeral.
-/

namespace MarketQuery.Number

open Binary64 (codeBound octave one one_pos units)

variable {negative : Bool} {digits code : Nat} {exponent : Int}

/-- The size nearest to a quotient gives the number. -/
theorem ofRatio_eq_ofCode {a b : Nat} (hb : 0 < b) (h : IsNearestSize (a / b * one : ℚ) code) :
    Binary64.ofRatio negative a b = .ofCode negative code := by
  have hnearest := isNearestSize_nearestCode (a * one) hb
  have hratio : ((a * one : ℕ) : ℚ) / b = a / b * one := by
    push_cast
    ring
  rw [hratio] at hnearest
  rw [Binary64.ofRatio, hnearest.unique h]

theorem two_pow_le_ten_pow {m n : Nat} (h : n ≤ 3 * m) : (2 : ℚ) ^ n ≤ 10 ^ m :=
  calc (2 : ℚ) ^ n
      ≤ 2 ^ (3 * m) := pow_le_pow_right₀ (by norm_num) h
    _ = (2 ^ 3) ^ m := pow_mul 2 3 m
    _ ≤ 10 ^ m := pow_le_pow_left₀ (by norm_num) (by norm_num) m

/-! ## Far beyond the finite sizes -/

theorem units_codeBound : units codeBound = octave * 2 ^ 972 * one := by
  have hbound : codeBound = (1074 + 972) * octave + octave := rfl
  rw [hbound, Binary64.units_whole (by decide) le_rfl]

theorem codeBound_le_of_isNearestSize (hdigits : digits ≠ 0) (hexponent : 400 ≤ exponent)
    (h : IsNearestSize (digits * 10 ^ exponent * one) code) : codeBound ≤ code := by
  have hdigit : (1 : ℚ) ≤ digits := by exact_mod_cast Nat.one_le_iff_ne_zero.2 hdigits
  refine h.le_of_units_le ?_
  rw [units_codeBound, Nat.cast_mul]
  refine mul_le_mul_of_nonneg_right ?_ (Nat.cast_nonneg one)
  calc ((octave * 2 ^ 972 : ℕ) : ℚ)
      = 2 ^ 52 * 2 ^ 972 := by rw [Nat.cast_mul, Nat.cast_pow, Nat.cast_ofNat]; norm_num
    _ = 2 ^ (52 + 972) := (pow_add 2 52 972).symm
    _ ≤ 10 ^ 400 := two_pow_le_ten_pow (by norm_num)
    _ = 10 ^ (400 : ℤ) := (zpow_natCast 10 400).symm
    _ ≤ 10 ^ exponent := zpow_le_zpow_right₀ (by norm_num) hexponent
    _ ≤ digits * 10 ^ exponent := le_mul_of_one_le_left (by positivity) hdigit

/-! ## Far below the least size -/

theorem isNearestSize_zero {x : ℚ} (hx : 0 ≤ x) (hle : x * 2 ≤ 1) : IsNearestSize x 0 := by
  have hleast : units (0 + 1) = 1 := rfl
  refine ⟨?_, ?_, fun _ => Even.zero⟩
  · rw [Binary64.units_zero]
    push_cast
    linarith
  · rw [Binary64.units_zero, hleast]
    push_cast
    linarith

theorem one_mul_two_le : (one * 2 : ℚ) ≤ 10 ^ (400 : ℤ) := by
  have hone : (one : ℚ) = 2 ^ 1074 := by rw [Binary64.one_eq, Nat.cast_pow, Nat.cast_ofNat]
  calc (one * 2 : ℚ)
      = 2 ^ 1074 * 2 := by rw [hone]
    _ = 2 ^ (1074 + 1) := (pow_succ 2 1074).symm
    _ ≤ 10 ^ 400 := two_pow_le_ten_pow (by norm_num)
    _ = 10 ^ (400 : ℤ) := (zpow_natCast 10 400).symm

/-- Digits take fewer places than they have binary ones. -/
theorem digits_le (digits : Nat) : (digits : ℚ) ≤ 10 ^ (digits.log2 + 1 : ℤ) :=
  calc (digits : ℚ)
      ≤ 2 ^ (digits.log2 + 1) := by exact_mod_cast Nat.lt_log2_self.le
    _ ≤ 10 ^ (digits.log2 + 1) := pow_le_pow_left₀ (by norm_num) (by norm_num) _
    _ = 10 ^ (digits.log2 + 1 : ℤ) := (zpow_natCast 10 (digits.log2 + 1)).symm

theorem eq_zero_of_isNearestSize (hexponent : exponent + digits.log2 + 1 ≤ -400)
    (h : IsNearestSize (digits * 10 ^ exponent * one) code) : code = 0 := by
  have hdigits := digits_le digits
  have hone := one_mul_two_le
  refine h.unique (isNearestSize_zero (by positivity) ?_)
  calc (digits * 10 ^ exponent * one * 2 : ℚ)
      = digits * 10 ^ exponent * (one * 2) := mul_assoc _ _ _
    _ ≤ 10 ^ (digits.log2 + 1 : ℤ) * 10 ^ exponent * 10 ^ (400 : ℤ) := by gcongr
    _ = 10 ^ (digits.log2 + 1 + exponent + 400 : ℤ) := by
        rw [← zpow_add₀ (by norm_num), ← zpow_add₀ (by norm_num)]
    _ ≤ 10 ^ (0 : ℤ) := zpow_le_zpow_right₀ (by norm_num) (by omega)
    _ = 1 := zpow_zero 10

/-! ## All decimals -/

theorem ten_zpow_eq_div (exponent : Int) :
    (10 : ℚ) ^ exponent = (Nat.pow 10 exponent.toNat : ℕ) / (gridDenominator exponent : ℕ) := by
  have hpos : (gridDenominator exponent : ℚ) ≠ 0 := by
    exact_mod_cast (gridDenominator_pos exponent).ne'
  exact eq_div_of_mul_eq hpos (ten_zpow_mul exponent)

theorem exists_isNearestSize (digits : Nat) (exponent : Int) :
    ∃ code, IsNearestSize (digits * 10 ^ exponent * one) code := by
  have h := isNearestSize_nearestCode (digits * Nat.pow 10 exponent.toNat * one)
    (gridDenominator_pos exponent)
  have hratio : ((digits * Nat.pow 10 exponent.toNat * one : ℕ) : ℚ) / gridDenominator exponent =
      digits * 10 ^ exponent * one := by
    rw [ten_zpow_eq_div]
    push_cast
    ring
  exact ⟨_, hratio ▸ h⟩

/-- **A decimal gives the number of the nearest size**, infinite if that is beyond the finite
ones. -/
theorem ofDecimal_eq_ofCode (h : IsNearestSize (digits * 10 ^ exponent * one) code) :
    Binary64.ofDecimal negative digits exponent = .ofCode negative code := by
  have hzero (hcode : code = 0) : Binary64.zero negative = .ofCode negative code := by
    subst hcode
    rfl
  unfold Binary64.ofDecimal
  split
  next hdigits =>
    rw [hdigits, Nat.cast_zero, zero_mul, zero_mul] at h
    exact hzero (h.unique (isNearestSize_zero le_rfl (by norm_num)))
  next hdigits =>
    split
    next hgreat =>
      have hcode := codeBound_le_of_isNearestSize hdigits hgreat h
      rw [Binary64.ofCode, dif_neg (not_lt.2 hcode)]
    next =>
      split
      next hsmall => exact hzero (eq_zero_of_isNearestSize hsmall h)
      next =>
        refine ofRatio_eq_ofCode (gridDenominator_pos exponent) ?_
        rw [ten_zpow_eq_div, ← mul_div_assoc] at h
        push_cast at h ⊢
        exact h

theorem Numeral.toBinary64_eq_ofCode {n : Numeral} (h : IsNearestSize (n.value * one) code) :
    n.toBinary64 negative = .ofCode negative code :=
  ofDecimal_eq_ofCode h

end MarketQuery.Number
