import MarketQuery.Proofs.Number.Exact
import MarketQuery.Proofs.Number.NearestSize

/-!
# The number closest to a rational

* `Binary64.IsClosest`: no number of 64 bits is nearer to a rational, and of two equally near ones
  it is the one with the even code;
* `isClosest_of_isNearestSize`: the nearest size with the sign of the rational;
* `exists_ofInt`: an integer of 64 bits gives the size nearest to it, and no infinite one;
* `units_eq_of_le`, `one_dvd_units_of_isNearestSize`: this is the integer itself up to `2 ^ 53`, and
  a whole number in any case.
-/

namespace MarketQuery

namespace Binary64

/-- The code of a finite number is even. -/
def HasEvenCode : Binary64 → Prop
  | finite _ code => Even code.val
  | _ => False

/-- The number is the rational `y`, and none is nearer to `x`; if another one is as near, its code
is even. -/
structure IsClosest (b : Binary64) (y x : ℚ) : Prop where
  rational : b.rational? = some y
  near : ∀ (b' : Binary64) (y' : ℚ), b'.rational? = some y' → |x - y| ≤ |x - y'|
  even : ∀ (b' : Binary64) (y' : ℚ), b'.rational? = some y' → |x - y| = |x - y'| →
    y' = y ∨ b.HasEvenCode

end Binary64

namespace Number

open Binary64 (octave one one_pos one_eq units codeBound rational?_eq_some_iff)

variable {x y : ℚ} {negative negative' : Bool} {code : Fin codeBound}

theorem abs_withSign_sub (negative : Bool) (x y : ℚ) :
    |withSign negative x - withSign negative y| = |x - y| := by
  cases negative with
  | true =>
    change |-x - -y| = |x - y|
    rw [← abs_neg]
    congr 1
    ring
  | false => rfl

theorem abs_withSign_sub_of_ne (hx : 0 ≤ x) (hy : 0 ≤ y) (h : negative' ≠ negative) :
    |withSign negative x - withSign negative' y| = x + y := by
  cases negative <;> cases negative'
  · exact absurd rfl h
  · change |x - -y| = x + y
    rw [sub_neg_eq_add, abs_of_nonneg (add_nonneg hx hy)]
  · change |-x - y| = x + y
    rw [← neg_add', abs_neg, abs_of_nonneg (add_nonneg hx hy)]
  · exact absurd rfl h

theorem abs_sub_le_abs_withSign_sub (hx : 0 ≤ x) (hy : 0 ≤ y) (negative negative' : Bool) :
    |x - y| ≤ |withSign negative x - withSign negative' y| := by
  by_cases h : negative' = negative
  · rw [h, abs_withSign_sub]
  · rw [abs_withSign_sub_of_ne hx hy h, abs_le]
    constructor <;> linarith

theorem abs_sub_div_one (x : ℚ) (c : Nat) :
    |x - units c / one| = |x * one - units c| / one := by
  have hone : (0 : ℚ) < one := by exact_mod_cast one_pos
  rw [eq_div_iff hone.ne', ← abs_of_pos hone, ← abs_mul, abs_of_pos hone, sub_mul,
    div_mul_cancel₀ _ hone.ne']

/-- Another size with any sign is not nearer than the nearest size with the sign of the rational,
and farther away if the code of that is odd. -/
theorem abs_sub_le_of_isNearestSize (hx : 0 ≤ x) (h : IsNearestSize (x * one) code) {b : Binary64}
    (hb : b.rational? = some y) :
    |x - units code / one| ≤ |withSign negative x - y| ∧
      (|x - units code / one| = |withSign negative x - y| →
        y = withSign negative (units code / one) ∨ Even code.val) := by
  obtain ⟨negative', code', rfl, rfl⟩ := rational?_eq_some_iff.1 hb
  have hone : (0 : ℚ) < one := by exact_mod_cast one_pos
  have hsize (c : Nat) : (0 : ℚ) ≤ units c / one := by positivity
  have hsign := abs_sub_le_abs_withSign_sub hx (hsize code') negative negative'
  by_cases hcode : code' = code
  · subst hcode
    refine ⟨hsign, fun he => ?_⟩
    by_cases hn : negative' = negative
    · exact .inl (by rw [hn])
    · refine .inr ?_
      rw [abs_withSign_sub_of_ne hx (hsize code') hn] at he
      -- As near as its negative: the rational is zero, or the size is.
      have hzero : (units code' : ℚ) = (units 0 : ℕ) := by
        rcases abs_eq_abs.1 (he.trans (abs_of_nonneg (add_nonneg hx (hsize code'))).symm) with e | e
        · have : (units code' : ℚ) / one = 0 := by linarith
          rw [(div_eq_zero_iff.1 this).resolve_right hone.ne']
          rfl
        · have hx0 : x = 0 := by linarith
          rw [hx0, zero_mul, ← Nat.cast_zero, ← Binary64.units_zero] at h
          rw [h.eq_of_units]
      have : code'.val = 0 := Binary64.strictMono_units.injective (by exact_mod_cast hzero)
      rw [this]
      exact Even.zero
  · have hne : code'.val ≠ code.val := fun e => hcode (Fin.ext e)
    simp only [abs_sub_div_one] at hsign ⊢
    rcases h.lt_of_ne hne with hlt | ⟨heq, heven⟩
    · have := (div_lt_div_iff_of_pos_right hone).2 hlt
      exact ⟨by linarith, fun he => by linarith⟩
    · exact ⟨heq ▸ hsign, fun _ => .inr heven⟩

/-- The nearest size with the sign of a rational is the closest number. -/
theorem isClosest_of_isNearestSize (hx : 0 ≤ x) (h : IsNearestSize (x * one) code)
    (negative : Bool) : (Binary64.finite negative code).IsClosest
      (withSign negative (units code / one)) (withSign negative x) := by
  refine ⟨rfl, fun b' y' hb' => ?_, fun b' y' hb' he => ?_⟩
  · rw [abs_withSign_sub]
    exact (abs_sub_le_of_isNearestSize hx h hb').1
  · rw [abs_withSign_sub] at he
    exact (abs_sub_le_of_isNearestSize hx h hb').2 he

/-! ## Integers -/

theorem natAbs_le (n : Int64) : n.toInt.natAbs ≤ octave * 2 ^ 11 := by
  have hl := n.le_toInt
  have hu := n.toInt_lt
  simp only [octave]
  omega

/-- An integer of 64 bits gives the size nearest to it. -/
theorem exists_ofInt (n : Int64) : ∃ code : Fin codeBound,
    Binary64.ofInt n.toInt = .finite (decide (n.toInt < 0)) code ∧
      IsNearestSize (n.toInt.natAbs * one) code := by
  have h := isNearestSize_nearestCode (n.toInt.natAbs * one) Nat.one_pos
  push_cast at h
  rw [div_one] at h
  have hbound : Binary64.nearestCode (n.toInt.natAbs * one) 1 < codeBound := by
    have hunits := Binary64.units_whole (m := octave) (by decide) le_rfl 11
    have hle : n.toInt.natAbs * one ≤ units ((1074 + 11) * octave + octave) :=
      hunits ▸ Nat.mul_le_mul_right one (natAbs_le n)
    exact lt_of_le_of_lt (h.le_of_le_units (by exact_mod_cast hle)) (by decide)
  exact ⟨⟨_, hbound⟩, dif_pos hbound, h⟩

variable {n c : Nat}

/-- A whole number with at most 53 binary digits is itself the nearest size. -/
theorem units_eq_of_le (h : IsNearestSize (n * one) c) (hn : n ≤ 2 * octave) :
    units c = n * one := by
  obtain ⟨c', hc'⟩ := Binary64.exists_units_eq_whole hn
  have hunits : (n * one : ℚ) = units c' := by
    rw [hc']
    push_cast
    rfl
  rw [hunits] at h
  rw [h.eq_of_units, hc']

/-- The size nearest to a whole number is a whole number. -/
theorem one_dvd_units_of_isNearestSize (h : IsNearestSize (n * one) c) : one ∣ units c := by
  rcases Nat.le_total n (2 * octave) with hn | hn
  · exact units_eq_of_le h hn ▸ Nat.dvd_mul_left one n
  · have hunits := Binary64.units_whole (m := octave) (by decide) le_rfl 1
    have hle : units ((1074 + 1) * octave + octave) ≤ n * one :=
      hunits ▸ Nat.mul_le_mul_right one (Nat.mul_comm .. ▸ hn)
    have hcode := h.le_of_units_le (by exact_mod_cast hle)
    exact Binary64.one_dvd_units ((Nat.le_add_right ..).trans hcode)

end Number

end MarketQuery
