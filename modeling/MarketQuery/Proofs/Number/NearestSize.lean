import MarketQuery.Proofs.Number.Nearest
import MarketQuery.Proofs.Number.Sizes

/-!
# The size nearest to a rational

A rational lies between the points halfway from a size to its neighbours just if no other size is
nearer. The halfway points belong to even codes.

* `IsNearestSize`: the code of the size nearest to a rational in units, by its halfway points;
* `IsNearestSize.unique`: there is no other, so a size is the one nearest to itself;
* `IsNearestSize.lt_of_ne`: no size is nearer, and as near only to that of an even code;
* **`isNearestSize_nearestCode`**: the code computed for a quotient is that of the nearest size.
-/

namespace MarketQuery.Number

open Binary64 (octave units nearestCode strictMono_units units_add exists_eq_add units_succ)

/-- The code of the size nearest to a rational in units: the rational lies between the points
halfway to the neighbours, and on one of them only if the code is even. -/
structure IsNearestSize (x : ℚ) (code : Nat) : Prop where
  lower : (units (code - 1) + units code : ℚ) ≤ 2 * x
  upper : 2 * x ≤ (units code + units (code + 1) : ℚ)
  even : 2 * x = (units (code - 1) + units code : ℚ) ∨ 2 * x = (units code + units (code + 1) : ℚ) →
    Even code

variable {x : ℚ} {c c' : Nat}

theorem units_le_units (h : c ≤ c') : (units c : ℚ) ≤ units c' := by
  exact_mod_cast strictMono_units.monotone h

theorem units_lt_units (h : c < c') : (units c : ℚ) < units c' := by
  exact_mod_cast strictMono_units h

/-! ## There is only one -/

theorem IsNearestSize.le (h : IsNearestSize x c) (h' : IsNearestSize x c') : c' ≤ c := by
  by_contra hlt
  rw [not_le] at hlt
  have hsucc := units_le_units (show c + 1 ≤ c' from hlt)
  have hpred := units_le_units (show c ≤ c' - 1 by omega)
  have hupper := h.upper
  have hlower := h'.lower
  -- The point halfway between the two would belong to both, and they would be neighbours.
  have heven : Even c := h.even (.inr (by linarith))
  have heven' : Even c' := h'.even (.inl (by linarith))
  have hnext : c' = c + 1 := by
    by_contra hne
    have := units_lt_units (show c + 1 < c' by omega)
    linarith
  exact Nat.even_add_one.1 (hnext ▸ heven') heven

theorem IsNearestSize.unique (h : IsNearestSize x c) (h' : IsNearestSize x c') : c = c' :=
  le_antisymm (h'.le h) (h.le h')

theorem isNearestSize_units (code : Nat) : IsNearestSize (units code) code := by
  have hpred := units_le_units (Nat.sub_le code 1)
  have hsucc := units_lt_units (Nat.lt_succ_self code)
  refine ⟨by linarith, by linarith, ?_⟩
  rintro (h | h)
  · rcases Nat.eq_zero_or_pos code with rfl | hpos
    · exact Even.zero
    · have := units_lt_units (show code - 1 < code by omega)
      linarith
  · linarith

theorem IsNearestSize.eq_of_units (h : IsNearestSize (units c') c) : c = c' :=
  h.unique (isNearestSize_units c')

/-! ## No size is nearer -/

/-- A size is nearer than any other, or as near if its code is even. -/
theorem IsNearestSize.lt_of_ne (h : IsNearestSize x c) (hne : c' ≠ c) :
    |x - units c| < |x - units c'| ∨ |x - units c| = |x - units c'| ∧ Even c := by
  have hle : |x - units c| ≤ |x - units c'| ∧ (|x - units c| = |x - units c'| → Even c) := by
    rcases Nat.lt_or_gt_of_ne hne with hlt | hlt
    · have hpred := units_le_units (show c' ≤ c - 1 by omega)
      have hc := units_lt_units hlt
      have hlower := h.lower
      have habs : |x - units c'| = x - units c' := abs_of_nonneg (by linarith)
      rw [habs, abs_le]
      refine ⟨⟨by linarith, by linarith⟩, fun he => h.even (.inl ?_)⟩
      rcases abs_eq_abs.1 (he.trans habs.symm) with he | he <;> linarith
    · have hsucc := units_le_units (show c + 1 ≤ c' from hlt)
      have hc := units_lt_units hlt
      have hupper := h.upper
      have habs : |x - units c'| = -(x - units c') := abs_of_nonpos (by linarith)
      rw [habs, abs_le]
      refine ⟨⟨by linarith, by linarith⟩, fun he => h.even (.inr ?_)⟩
      rcases abs_eq_abs.1 (he.trans habs.symm) with he | he <;> linarith
  rcases hle.1.lt_or_eq with hlt | he
  · exact .inl hlt
  · exact .inr ⟨he, hle.2 he⟩

theorem IsNearestSize.le_of_le_units (h : IsNearestSize x c) (hx : x ≤ units c') : c ≤ c' := by
  by_contra hlt
  rw [not_le] at hlt
  have hpred := units_le_units (show c' ≤ c - 1 by omega)
  have hc := units_lt_units hlt
  have hlower := h.lower
  linarith

theorem IsNearestSize.le_of_units_le (h : IsNearestSize x c) (hx : units c' ≤ x) : c' ≤ c := by
  by_contra hlt
  rw [not_le] at hlt
  have hsucc := units_le_units (show c + 1 ≤ c' from hlt)
  have hc := units_lt_units hlt
  have hupper := h.upper
  linarith

/-! ## The code of a quotient -/

section Grids

variable {y : ℚ} {k m n : Nat}

/-- Rounding keeps a whole bound from above -/
theorem IsNearest.le_of_lt (h : IsNearest y m) (hn : y < n) : m ≤ n := by
  have hnear : |y - m| ≤ 1 / 2 := by exact_mod_cast h.near
  have hlt : (m : ℚ) < n + 1 := by linarith [(abs_le.1 hnear).1]
  exact Nat.lt_succ_iff.1 (by exact_mod_cast hlt)

/-- and from below. -/
theorem IsNearest.le_of_le (h : IsNearest y m) (hn : (n : ℚ) ≤ y) : n ≤ m := by
  have hnear : |y - m| ≤ 1 / 2 := by exact_mod_cast h.near
  have hlt : (n : ℚ) < m + 1 := by linarith [(abs_le.1 hnear).2]
  exact Nat.lt_succ_iff.1 (by exact_mod_cast hlt)

theorem IsNearest.even_nat (h : IsNearest y m) (hhalf : |y - m| = 1 / 2) : Even m := by
  exact_mod_cast h.even (by exact_mod_cast hhalf)

/-- Behind a full grid the steps are those of the next one, twice as long. -/
theorem units_add_succ (hm : m ≤ 2 * octave) (hk : k = 0 ∨ octave ≤ m) :
    (m = 2 * octave ∧ (m + 1) * 2 ^ k ≤ units (k * octave + m + 1)) ∨
      units (k * octave + m + 1) = (m + 1) * 2 ^ k := by
  rcases hm.eq_or_lt with rfl | hlt
  · refine .inl ⟨rfl, ?_⟩
    have hcode : k * octave + 2 * octave + 1 = (k + 1) * octave + (octave + 1) := by
      simp only [octave]
      omega
    have hle : 2 * octave + 1 ≤ (octave + 1) * 2 := by decide
    rw [hcode, units_add (by decide) (.inr (Nat.le_succ _)), pow_succ', ← Nat.mul_assoc]
    exact Nat.mul_le_mul_right _ hle
  · rw [Nat.add_assoc]
    exact .inr (units_add (m := m + 1) hlt (hk.imp_right Nat.le_succ_of_le))

/-- Before the first mantissa of a grid there is none of that grid. -/
theorem units_add_pred (hm : m ≤ 2 * octave) (hk : k = 0 ∨ octave ≤ m) :
    m = 0 ∨ (m = octave ∧ k ≠ 0) ∨
      ∃ j, m = j + 1 ∧ units (k * octave + m - 1) = j * 2 ^ k := by
  rcases Nat.eq_zero_or_pos m with h | hpos
  · exact .inl h
  · refine .inr ?_
    by_cases hfirst : m = octave ∧ k ≠ 0
    · exact .inl hfirst
    · refine .inr ⟨m - 1, by omega, ?_⟩
      have hcode : k * octave + m - 1 = k * octave + (m - 1) := by omega
      rw [hcode, units_add (by omega) (by omega)]

/-- The point halfway to the size before, which is a half step away, or at the first mantissa of a
grid less. -/
theorem lower_of_isNearest (hm : m ≤ 2 * octave) (hk : k = 0 ∨ octave ≤ m)
    (hfirst : k = 0 ∨ (octave : ℚ) ≤ y) (hy : 0 ≤ y) (h : IsNearest y m) :
    (units (k * octave + m - 1) + units (k * octave + m) : ℚ) ≤ 2 * (y * 2 ^ k) ∧
      (2 * (y * 2 ^ k) = (units (k * octave + m - 1) + units (k * octave + m) : ℚ) → Even m) := by
  have hpow : (0 : ℚ) < 2 ^ k := by positivity
  have hnear : |y - m| ≤ 1 / 2 := by exact_mod_cast h.near
  have hl := mul_le_mul_of_nonneg_right (abs_le.1 hnear).1 hpow.le
  have hunits : (units (k * octave + m) : ℚ) = m * 2 ^ k := by exact_mod_cast units_add hm hk
  rcases units_add_pred hm hk with rfl | ⟨rfl, hne⟩ | ⟨j, rfl, hj⟩
  · have hzero : k = 0 := hk.resolve_right (by decide)
    subst hzero
    exact ⟨by simpa [Binary64.units_zero] using hy, fun _ => Even.zero⟩
  · have hle := units_le_units (Nat.sub_le (k * octave + octave) 1)
    have hmul := mul_le_mul_of_nonneg_right (hfirst.resolve_left hne) hpow.le
    rw [hunits] at hle ⊢
    exact ⟨by linarith, fun _ => by decide⟩
  · have hj' : (units (k * octave + (j + 1) - 1) : ℚ) = j * 2 ^ k := by exact_mod_cast hj
    have hhalf := h.even_nat
    push_cast at hl hunits hhalf
    rw [hunits, hj']
    refine ⟨by linarith, fun he => hhalf ?_⟩
    have hstep : y - (j + 1) = -(1 / 2) := by
      have : 2 * y = 2 * j + 1 := mul_right_cancel₀ hpow.ne' (by linarith)
      linarith
    rw [hstep]
    norm_num

/-- The point halfway to the size behind, which is a half step away, or at the end of a grid
more. -/
theorem upper_of_isNearest (hm : m ≤ 2 * octave) (hk : k = 0 ∨ octave ≤ m) (h : IsNearest y m) :
    2 * (y * 2 ^ k) ≤ (units (k * octave + m) + units (k * octave + m + 1) : ℚ) ∧
      (2 * (y * 2 ^ k) = (units (k * octave + m) + units (k * octave + m + 1) : ℚ) → Even m) := by
  have hpow : (0 : ℚ) < 2 ^ k := by positivity
  have hnear : |y - m| ≤ 1 / 2 := by exact_mod_cast h.near
  have hu := mul_le_mul_of_nonneg_right (abs_le.1 hnear).2 hpow.le
  have hunits : (units (k * octave + m) : ℚ) = m * 2 ^ k := by exact_mod_cast units_add hm hk
  rw [hunits]
  rcases units_add_succ hm hk with ⟨rfl, hle⟩ | heq
  · have hle' : (((2 * octave : ℕ) : ℚ) + 1) * 2 ^ k ≤ units (k * octave + 2 * octave + 1) := by
      exact_mod_cast hle
    refine ⟨?_, fun _ => even_two_mul octave⟩
    generalize ((2 * octave : ℕ) : ℚ) = n at hu hle' ⊢
    linarith
  · have heq' : (units (k * octave + m + 1) : ℚ) = (m + 1) * 2 ^ k := by exact_mod_cast heq
    rw [heq']
    refine ⟨by linarith, fun he => h.even_nat ?_⟩
    have hstep : y - m = 1 / 2 := by
      have : 2 * y = 2 * m + 1 := mul_right_cancel₀ hpow.ne' (by linarith)
      linarith
    rw [hstep]
    norm_num

/-- The mantissa nearest to a rational in steps of a grid is that of the nearest size. -/
theorem isNearestSize_add (hm : m ≤ 2 * octave) (hk : k = 0 ∨ octave ≤ m)
    (hfirst : k = 0 ∨ (octave : ℚ) ≤ y) (hy : 0 ≤ y) (h : IsNearest y m) :
    IsNearestSize (y * 2 ^ k) (k * octave + m) := by
  have heven : Even m → Even (k * octave + m) := by
    have hoctave : Even octave := by decide
    exact fun he => (hoctave.mul_left k).add he
  obtain ⟨hlower, hlower_even⟩ := lower_of_isNearest hm hk hfirst hy h
  obtain ⟨hupper, hupper_even⟩ := upper_of_isNearest hm hk h
  exact ⟨hlower, hupper, fun he => heven (he.elim hlower_even hupper_even)⟩

end Grids

section Quotients

variable {a b k : ℕ}

/-- In steps of the grid chosen for it a quotient has at most 53 binary digits, -/
theorem quotient_lt (hb : 0 < b) (hk : (a / b).log2 - 52 = k) :
    (a : ℚ) / (b <<< k : ℕ) < (2 * octave : ℕ) := by
  have hgrid : 0 < b <<< k := Nat.shiftLeft_pos_iff.2 hb
  have hlog : a / b < 2 ^ (k + 53) :=
    lt_of_lt_of_le Nat.lt_log2_self (Nat.pow_le_pow_right (by decide) (by omega))
  have hfull : 2 ^ (k + 53) * b = 2 * octave * b <<< k := by
    rw [Nat.shiftLeft_eq, Nat.pow_add]
    ring
  rw [div_lt_iff₀ (by exact_mod_cast hgrid)]
  exact_mod_cast hfull ▸ (Nat.div_lt_iff_lt_mul hb).1 hlog

/-- and, but on the finest grid, not fewer. -/
theorem le_quotient (hb : 0 < b) (hk : (a / b).log2 - 52 = k) :
    k = 0 ∨ (octave : ℚ) ≤ a / (b <<< k : ℕ) := by
  refine or_iff_not_imp_left.2 fun hne => ?_
  have hgrid : 0 < b <<< k := Nat.shiftLeft_pos_iff.2 hb
  have hlog : 2 ^ (k + 52) ≤ a / b := by
    have hpos : a / b ≠ 0 := by
      intro hzero
      rw [hzero] at hk
      exact hne hk.symm
    have hexact : (a / b).log2 = k + 52 := by omega
    exact hexact ▸ Nat.log2_self_le hpos
  have hfull : 2 ^ (k + 52) * b = octave * b <<< k := by
    rw [Nat.shiftLeft_eq, Nat.pow_add]
    ring
  rw [le_div_iff₀ (by exact_mod_cast hgrid)]
  exact_mod_cast hfull ▸ (Nat.le_div_iff_mul_le hb).1 hlog

end Quotients

/-- **The code computed for a quotient is that of the nearest size.** -/
theorem isNearestSize_nearestCode (a : Nat) {b : Nat} (hb : 0 < b) :
    IsNearestSize ((a : ℚ) / b) (nearestCode a b) := by
  unfold nearestCode
  dsimp only
  obtain ⟨k, hk⟩ : ∃ k, (a / b).log2 - 52 = k := ⟨_, rfl⟩
  rw [hk]
  have hlast := quotient_lt hb hk
  have hfirst := le_quotient hb hk
  have hgrid : 0 < b <<< k := Nat.shiftLeft_pos_iff.2 hb
  have hx : (a : ℚ) / b = a / (b <<< k : ℕ) * 2 ^ k := by
    have hpow : (0 : ℚ) < 2 ^ k := by positivity
    rw [Nat.shiftLeft_eq]
    push_cast
    field_simp
  have hnearest := isNearest_roundHalfEven a hgrid
  have hmantissa : roundHalfEven a (b <<< k) ≤ 2 * octave := hnearest.le_of_lt hlast
  have hnormal : k = 0 ∨ octave ≤ roundHalfEven a (b <<< k) :=
    hfirst.imp_right hnearest.le_of_le
  rw [hx]
  exact isNearestSize_add hmantissa hnormal hfirst (by positivity) hnearest

end MarketQuery.Number
