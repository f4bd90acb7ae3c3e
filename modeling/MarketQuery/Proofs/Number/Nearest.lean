import Mathlib.Algebra.Order.Field.Rat
import Mathlib.Algebra.Ring.Parity
import Mathlib.Tactic.FieldSimp
import Mathlib.Tactic.Linarith
import Mathlib.Tactic.Positivity
import Mathlib.Tactic.Ring
import MarketQuery.Number.Rounding

/-!
# Nearest whole numbers and decimals

* `IsNearest`: a whole number nearest to a rational, of two equally near ones the even one;
* `IsNearest.unique`: there is no other;
* `isNearest_roundHalfEven`: the rounded quotient is the one nearest to the quotient;
* `Rounds`: the decimal with a given count of places nearest to a rational;
* `Rounds.of_le`: rounded to some places, a number that needs fewer is what rounding to the fewer
  gives.
-/

namespace MarketQuery.Number

/-! ## Whole numbers -/

/-- The whole number is nearest to the rational, and even if another one is as near. -/
structure IsNearest (x : ℚ) (n : ℤ) : Prop where
  near : |x - n| ≤ 1 / 2
  even : |x - n| = 1 / 2 → Even n

variable {x : ℚ} {m n : ℤ}

theorem IsNearest.le (hm : IsNearest x m) (hn : IsNearest x n) : n ≤ m := by
  by_contra hlt
  rw [not_le] at hlt
  have hxm := (abs_le.1 hm.near).2
  have hxn := (abs_le.1 hn.near).1
  have hle : (m : ℚ) + 1 ≤ n := by exact_mod_cast hlt
  -- Both are half a unit away, so both are even and neighbours.
  have hnext : n = m + 1 := by
    have : (n : ℚ) = m + 1 := by linarith
    exact_mod_cast this
  subst hnext
  push_cast at hxn hle
  have hm_even : Even m := hm.even (by rw [abs_of_nonneg] <;> linarith)
  have hn_even : Even (m + 1) := hn.even (by push_cast; rw [abs_of_nonpos] <;> linarith)
  exact Int.even_add_one.1 hn_even hm_even

theorem IsNearest.unique (hm : IsNearest x m) (hn : IsNearest x n) : m = n :=
  le_antisymm (hn.le hm) (hm.le hn)

theorem IsNearest.neg (h : IsNearest x n) : IsNearest (-x) (-n) := by
  have habs : |-x - ((-n : ℤ) : ℚ)| = |x - n| := by
    rw [← abs_neg]
    push_cast
    congr 1
    ring
  exact ⟨habs ▸ h.near, fun he => (h.even (habs ▸ he)).neg⟩

theorem isNearest_of_lt (h : |x - n| < 1 / 2) : IsNearest x n :=
  ⟨h.le, fun he => absurd he h.ne⟩

/-- A rounded quotient half a unit away from the quotient is even. -/
theorem even_roundHalfEven {a b : Nat} (hb : 0 < b)
    (h : 2 * a = 2 * (roundHalfEven a b * b) + b ∨ 2 * (roundHalfEven a b * b) = 2 * a + b) :
    Even (roundHalfEven a b) := by
  have hd := Nat.div_add_mod a b
  have hm := Nat.mod_lt a hb
  have hs : (a / b + 1) * b = b * (a / b) + b := by rw [Nat.add_mul, Nat.one_mul, Nat.mul_comm]
  have hc : a / b * b = b * (a / b) := Nat.mul_comm ..
  rw [Nat.even_iff]
  revert h
  simp only [roundHalfEven]
  split
  · omega
  · split
    · omega
    · split <;> omega

theorem isNearest_roundHalfEven (a : Nat) {b : Nat} (hb : 0 < b) :
    IsNearest ((a : ℚ) / b) (roundHalfEven a b) := by
  have hpos : (0 : ℚ) < b := by exact_mod_cast hb
  have hle : (2 : ℚ) * (roundHalfEven a b * b) ≤ 2 * a + b := by
    exact_mod_cast two_mul_roundHalfEven_mul_le a b hb
  have hge : (2 : ℚ) * a ≤ 2 * (roundHalfEven a b * b) + b := by
    exact_mod_cast le_two_mul_roundHalfEven_mul a b hb
  have hdiff : (a : ℚ) / b - (roundHalfEven a b : ℤ) = (a - roundHalfEven a b * b) / b := by
    push_cast
    field_simp
  constructor
  · rw [hdiff, abs_le, le_div_iff₀ hpos, div_le_iff₀ hpos]
    constructor <;> linarith
  · intro h
    rw [hdiff, abs_eq (by norm_num), div_eq_iff hpos.ne', div_eq_iff hpos.ne'] at h
    have heven : Even (roundHalfEven a b) := by
      refine even_roundHalfEven hb (h.imp (fun h => ?_) fun h => ?_)
      · have : (2 : ℚ) * a = 2 * (roundHalfEven a b * b) + b := by linarith
        exact_mod_cast this
      · have : (2 : ℚ) * (roundHalfEven a b * b) = 2 * a + b := by linarith
        exact_mod_cast this
    exact_mod_cast heven

/-! ## Decimals -/

/-- The decimal with so many places that is nearest to the rational; of two equally near ones that
with the even last digit. -/
def Rounds (places : Nat) (x q : ℚ) : Prop :=
  ∃ n : ℤ, IsNearest (x * 10 ^ places) n ∧ q = n / 10 ^ places

variable {places : Nat} {q q' : ℚ}

theorem Rounds.unique (h : Rounds places x q) (h' : Rounds places x q') : q = q' := by
  obtain ⟨m, hm, rfl⟩ := h
  obtain ⟨n, hn, rfl⟩ := h'
  rw [hm.unique hn]

theorem Rounds.neg (h : Rounds places x q) : Rounds places (-x) (-q) := by
  obtain ⟨n, hn, rfl⟩ := h
  refine ⟨-n, ?_, ?_⟩
  · rw [neg_mul]
    exact hn.neg
  · push_cast
    ring

/-- A number rounded to some places that needs fewer is the same when it is rounded to the fewer:
it is by far nearer to the number than half a step of the coarser decimals. -/
theorem Rounds.of_le {fewer : Nat} (hle : fewer ≤ places) (h : Rounds places x q) {k : ℤ}
    (hk : q = k / 10 ^ fewer) : Rounds fewer x q := by
  rcases hle.eq_or_lt with rfl | hlt
  · exact h
  obtain ⟨n, hn, hq⟩ := h
  refine ⟨k, isNearest_of_lt ?_, hk⟩
  obtain ⟨j, rfl⟩ : ∃ j, places = fewer + (j + 1) := ⟨places - fewer - 1, by omega⟩
  have hstep : (10 : ℚ) ≤ 10 ^ (j + 1) := by
    have := one_le_pow₀ (n := j) (show (1 : ℚ) ≤ 10 by norm_num)
    rw [pow_succ]
    linarith
  have hn_eq : (n : ℚ) = k * 10 ^ (j + 1) := by
    have := hk.symm.trans hq
    field_simp at this
    rw [pow_add] at this
    field_simp at this
    linarith
  have hdiff : x * 10 ^ (fewer + (j + 1)) - n = (x * 10 ^ fewer - k) * 10 ^ (j + 1) := by
    rw [hn_eq, pow_add]
    ring
  have hnear := hn.near
  rw [hdiff, abs_mul, abs_of_pos (show (0 : ℚ) < 10 ^ (j + 1) by positivity)] at hnear
  have hmono := mul_le_mul_of_nonneg_left hstep (abs_nonneg (x * 10 ^ fewer - k))
  linarith

end MarketQuery.Number
