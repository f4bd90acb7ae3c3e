import MarketQuery.Json.Number
import MarketQuery.Proofs.Number.NearestDecimal

/-!
# Digits scaled by a power of ten

The double of a numeral is a product or a quotient of two doubles, those of its digits and of a
power of ten. Where both are exact there is one rounding, and so the nearest number comes out: up to
`2 ^ 53` for the digits and up to `10 ^ 22` for the power.

* `exists_units_eq_mul`: whole numbers that are sizes of finite numbers;
* `Binary64.times_eq_ofCode`, `Binary64.dividedBy_eq_ofCode`: the number nearest to a product and to
  a quotient of whole numbers;
* `exists_ofInt_nat`, `exists_powerOfTen`: digits and powers of ten that are exact;
* `takeFitting_eq`, `significand_eq`: digits that 64 bits hold are all taken;
* **`isNearestSize_of_float?`**: the double of a numeral with few digits and a small power is the
  nearest one.
-/

namespace MarketQuery

open Number
open Binary64 (codeBound octave one one_pos units)

variable {negative : Bool} {a b c m n code : Nat} {x y : Binary64}

/-! ## Whole numbers -/

theorem Binary64.size_ofCode (h : code < codeBound) :
    (Binary64.ofCode negative code).size = units code := by
  rw [Binary64.ofCode, dif_pos h]
  rfl

theorem Binary64.withSign_ofCode (negative : Bool) (code : Nat) :
    (Binary64.ofCode false code).withSign negative = .ofCode negative code := by
  unfold Binary64.ofCode
  split <;> rfl

/-- A multiple of a power of two by at most 53 digits is the size of a finite number, unless the
power is too great for one. -/
theorem exists_units_eq_mul {k : Nat} (hm : m ≤ 2 * octave) (hk : k ≤ 970) :
    ∃ code < codeBound, units code = m * 2 ^ k * one := by
  obtain ⟨places, hone⟩ : ∃ places, one = 2 ^ places := ⟨_, Binary64.one_eq⟩
  obtain ⟨code, hcode⟩ := Binary64.exists_units_eq hm (k + places)
  have hunits : units code = m * 2 ^ k * one := by rw [hcode, hone, Nat.pow_add, Nat.mul_assoc]
  obtain ⟨top, htop, hbound⟩ : ∃ top, k + 1 < top ∧ units codeBound = octave * 2 ^ top * one :=
    ⟨972, by omega, units_codeBound⟩
  refine ⟨code, ?_, hunits⟩
  rw [← Binary64.strictMono_units.lt_iff_lt, hbound, hunits]
  refine Nat.mul_lt_mul_of_pos_right ?_ one_pos
  calc m * 2 ^ k
      ≤ 2 * octave * 2 ^ k := Nat.mul_le_mul_right _ hm
    _ = octave * 2 ^ (k + 1) := by rw [Nat.pow_succ']; ring
    _ < octave * 2 ^ top :=
        Nat.mul_lt_mul_of_pos_left (Nat.pow_lt_pow_right (by decide) htop) (by decide)

/-- The number nearest to a product of whole numbers. -/
theorem Binary64.times_eq_ofCode (hx : x.size = a * one) (hy : y.size = b * one)
    (h : IsNearestSize (a * b * one) code) : x.times y = .ofCode false code := by
  have hone : (one : ℚ) ≠ 0 := by exact_mod_cast one_pos.ne'
  rw [Binary64.times, hx, hy]
  refine ofRatio_eq_ofCode (Nat.mul_pos one_pos one_pos) ?_
  convert h using 2
  push_cast
  field_simp

/-- The number nearest to a quotient of whole numbers. -/
theorem Binary64.dividedBy_eq_ofCode (hx : x.size = a * one) (hy : y.size = b * one) (hb : 0 < b)
    (h : IsNearestSize (a / b * one) code) : x.dividedBy y = .ofCode false code := by
  have hone : (one : ℚ) ≠ 0 := by exact_mod_cast one_pos.ne'
  have hb' : (b : ℚ) ≠ 0 := by exact_mod_cast hb.ne'
  rw [Binary64.dividedBy, hx, hy]
  refine ofRatio_eq_ofCode (Nat.mul_pos hb one_pos) ?_
  convert h using 2
  push_cast
  field_simp

/-- A whole number up to `2 ^ 53` is exact. -/
theorem exists_ofInt_nat (hn : n ≤ 2 * octave) :
    ∃ code < codeBound, Binary64.ofInt n = .ofCode false code ∧ units code = n * one := by
  obtain ⟨code, hlt, hcode⟩ := exists_units_eq_mul (k := 0) hn (by decide)
  rw [Nat.pow_zero, Nat.mul_one] at hcode
  refine ⟨code, hlt, ofRatio_eq_ofCode (by decide) ?_, hcode⟩
  have hsize : ((n : Int).natAbs / (1 : ℕ) * one : ℚ) = units code := by
    rw [hcode, Int.natAbs_natCast]
    push_cast
    ring
  rw [hsize]
  exact isNearestSize_units code

namespace Json.Number

/-- A power of ten up to `10 ^ 22` is exact. -/
theorem exists_powerOfTen {e : Nat} (he : e ≤ 22) :
    ∃ code < codeBound, powerOfTen e = .ofCode false code ∧ units code = 10 ^ e * one := by
  have hten : 5 ^ e * 2 ^ e = 10 ^ e := (Nat.mul_pow 5 2 e).symm
  have hfive : 5 ^ e ≤ 2 * octave :=
    (Nat.pow_le_pow_right (by decide) he).trans (by decide)
  obtain ⟨code, hlt, hcode⟩ := exists_units_eq_mul (k := e) hfive (by omega)
  rw [hten] at hcode
  refine ⟨code, hlt, ofDecimal_eq_ofCode ?_, hcode⟩
  have hsize : ((1 : ℕ) * 10 ^ (e : Int) * one : ℚ) = units code := by
    rw [hcode, zpow_natCast]
    push_cast
    ring
  rw [hsize]
  exact isNearestSize_units code

/-- **Exact digits scaled by an exact power of ten give the nearest number.** -/
theorem isNearestSize_of_scaled? {exponent : Int} (hn : n ≤ 2 * octave) (he : exponent.natAbs ≤ 22)
    (h : scaled? (.ofInt n) exponent = some x) :
    ∃ code, IsNearestSize (n * 10 ^ exponent * one) code ∧ x = .ofCode false code := by
  obtain ⟨code, hnearest⟩ := exists_isNearestSize n exponent
  refine ⟨code, hnearest, ?_⟩
  obtain ⟨digits, hdigits, hint, hunits⟩ := exists_ofInt_nat hn
  have hsize : (Binary64.ofInt n).size = n * one := by
    rw [hint, Binary64.size_ofCode hdigits, hunits]
  obtain ⟨power, hpower, hten, htenUnits⟩ := exists_powerOfTen he
  have htenSize : (powerOfTen exponent.natAbs).size = 10 ^ exponent.natAbs * one := by
    rw [hten, Binary64.size_ofCode hpower, htenUnits]
  rw [scaled?] at h
  split at h
  next hzero =>
    -- Only zero has no size.
    obtain rfl := Option.some.inj h
    have hcode : digits = 0 := by
      rw [hint, Binary64.ofCode, dif_pos hdigits] at hzero
      simpa [Binary64.isNonzero] using hzero
    have hn0 : n = 0 := by
      rw [hcode, Binary64.units_zero] at hunits
      exact (Nat.mul_eq_zero.1 hunits.symm).resolve_right one_pos.ne'
    rw [hn0, Nat.cast_zero, zero_mul, zero_mul] at hnearest
    rw [hint, hcode, hnearest.unique (isNearestSize_zero le_rfl (by norm_num))]
  next =>
    split at h
    next hpos =>
      obtain ⟨k, rfl⟩ := Int.eq_ofNat_of_zero_le hpos
      rw [if_pos (by simp only [maxPower]; omega)] at h
      obtain ⟨-, hx⟩ := Option.ite_none_right_eq_some.1 h
      rw [← Option.some.inj hx]
      refine Binary64.times_eq_ofCode hsize htenSize ?_
      simpa using hnearest
    next hneg =>
      obtain ⟨k, rfl⟩ : ∃ k : Nat, exponent = -k := ⟨exponent.natAbs, by omega⟩
      rw [if_pos (by simp only [maxPower]; omega)] at h
      rw [← Option.some.inj h]
      have hdivisor : (powerOfTen (- -(k : Int)).toNat).size = 10 ^ k * one := by
        simpa using htenSize
      refine Binary64.dividedBy_eq_ofCode hsize hdivisor (Nat.pow_pos (by decide)) ?_
      simpa [zpow_neg, div_eq_mul_inv] using hnearest

/-! ## Numerals -/

theorem le_ofDigitChars (digits : List Char) (value : Nat) :
    value ≤ Nat.ofDigitChars 10 digits value := by
  rw [Nat.ofDigitChars_eq_ofDigitChars_zero]
  exact (Nat.le_mul_of_pos_left value (Nat.pow_pos (by decide))).trans (Nat.le_add_right ..)

/-- Digits are all taken if 64 bits hold what they come to. -/
theorem takeFitting_eq {digits : List Char} {value : Nat}
    (h : Nat.ofDigitChars 10 digits value < 2 ^ 64) :
    takeFitting value digits = (Nat.ofDigitChars 10 digits value, []) := by
  induction digits generalizing value with
  | nil => rfl
  | cons c rest ih =>
    rw [Nat.ofDigitChars_cons] at h ⊢
    have hfits : Number.fitsNat64 (10 * value + (c.toNat - '0'.toNat)) = true :=
      decide_eq_true ((le_ofDigitChars rest _).trans_lt h)
    rw [takeFitting, if_pos hfits, ih h]

theorem significand_eq {numeral : Number.Numeral}
    (h : Number.digitsValue (numeral.whole ++ numeral.fraction) < 2 ^ 64) :
    significand numeral = (Number.digitsValue (numeral.whole ++ numeral.fraction),
      numeral.exponent - numeral.fraction.length) := by
  change Nat.ofDigitChars 10 (numeral.whole ++ numeral.fraction) 0 < 2 ^ 64 at h
  have hvalue : Number.digitsValue (numeral.whole ++ numeral.fraction) =
      Nat.ofDigitChars 10 numeral.fraction (Nat.ofDigitChars 10 numeral.whole 0) :=
    Nat.ofDigitChars_append 0
  rw [Nat.ofDigitChars_append] at h
  have hwhole := takeFitting_eq ((le_ofDigitChars numeral.fraction _).trans_lt h)
  simp only [significand, hwhole, takeFitting_eq h, hvalue, List.length_nil]
  push_cast
  ring_nf

/-- **The double of a numeral with few digits and a small power of ten is the nearest one.** -/
theorem isNearestSize_of_float? {numeral : Number.Numeral}
    (hdigits : Number.digitsValue (numeral.whole ++ numeral.fraction) ≤ 2 ^ 53)
    (hexponent : (numeral.exponent - numeral.fraction.length).natAbs ≤ 22)
    (h : float? negative numeral = some x) :
    ∃ code, IsNearestSize (numeral.value * one) code ∧ x = .ofCode negative code := by
  rw [float?, significand_eq (hdigits.trans_lt (by decide))] at h
  obtain ⟨y, hy, rfl⟩ := Option.map_eq_some_iff.1 h
  obtain ⟨code, hnearest, rfl⟩ := isNearestSize_of_scaled? hdigits hexponent hy
  exact ⟨code, hnearest, Binary64.withSign_ofCode negative code⟩

end Json.Number

end MarketQuery
