import Mathlib.Algebra.Group.Nat.Defs
import Mathlib.Order.Monotone.Basic
import MarketQuery.Number.Binary64

/-!
# The sizes of numbers

A code is a mantissa on a grid: a multiple of a power of two, with at most 53 binary digits and, but
on the finest grid, not fewer.

* `units_add`, `exists_eq_add`: the size of a mantissa on a grid, and each code is such;
* `units_succ`, `strictMono_units`: from a code to the next the size grows by a step of its grid;
* `exists_units_eq`: a multiple of a power of two by at most 53 digits is a size;
* `units_whole`, `one_dvd_units`: from `2 ^ 52` on the sizes are whole numbers.
-/

namespace MarketQuery.Binary64

theorem one_eq : one = 2 ^ 1074 := by
  unfold one
  generalize 1074 = n
  exact Nat.one_shiftLeft n

theorem one_pos : 0 < one := by
  obtain ⟨places, hone⟩ : ∃ places, one = 2 ^ places := ⟨_, one_eq⟩
  rw [hone]
  exact Nat.two_pow_pos places

theorem units_add {k m : Nat} (hm : m ≤ 2 * octave) (hk : k = 0 ∨ octave ≤ m) :
    units (k * octave + m) = m * 2 ^ k := by
  rw [units, Nat.shiftLeft_eq]
  rcases hm.eq_or_lt with rfl | hlt
  · -- The mantissa fills the grid, so the code is the first one of the next.
    have hs : scale (k * octave + 2 * octave) = k + 1 := by
      simp only [scale, octave]
      omega
    have hmantissa : k * octave + 2 * octave - (k + 1) * octave = octave := by
      simp only [octave]
      omega
    rw [hs, hmantissa, Nat.pow_succ', ← Nat.mul_assoc, Nat.mul_comm octave]
  · have hs : scale (k * octave + m) = k := by
      simp only [scale, octave] at hlt hk ⊢
      omega
    rw [hs, Nat.add_sub_cancel_left]

theorem exists_eq_add (code : Nat) :
    ∃ k m, code = k * octave + m ∧ m < 2 * octave ∧ (k = 0 ∨ octave ≤ m) := by
  refine ⟨scale code, code - scale code * octave, ?_, ?_, ?_⟩ <;>
    simp only [scale, octave] <;> omega

theorem units_succ (code : Nat) : ∃ k, units (code + 1) = units code + 2 ^ k := by
  obtain ⟨k, m, rfl, hm, hk⟩ := exists_eq_add code
  refine ⟨k, ?_⟩
  rw [units_add hm.le hk, Nat.add_assoc, units_add hm (hk.imp_right Nat.le_succ_of_le),
    Nat.succ_mul]

theorem strictMono_units : StrictMono units := by
  refine strictMono_nat_of_lt_succ fun code => ?_
  obtain ⟨k, hk⟩ := units_succ code
  rw [hk]
  exact Nat.lt_add_of_pos_right (Nat.two_pow_pos k)

theorem units_pos {code : Nat} (h : code ≠ 0) : 0 < units code := by
  rw [← units_zero]
  exact strictMono_units (Nat.pos_of_ne_zero h)

/-- A multiple of a power of two by at most 53 digits is a size: with fewer digits, on a finer
grid. -/
theorem exists_units_eq {m : Nat} (hm : m ≤ 2 * octave) (k : Nat) :
    ∃ code, units code = m * 2 ^ k := by
  induction k generalizing m with
  | zero => exact ⟨0 * octave + m, units_add hm (.inl rfl)⟩
  | succ k ih =>
    rcases Nat.lt_or_ge m octave with hlt | hge
    · obtain ⟨code, hcode⟩ := ih (m := 2 * m) (Nat.mul_le_mul_left 2 hlt.le)
      exact ⟨code, by rw [hcode, Nat.pow_succ', Nat.mul_comm 2 m, Nat.mul_assoc]⟩
    · exact ⟨(k + 1) * octave + m, units_add hm (.inr hge)⟩

/-! ## Whole numbers -/

theorem units_whole {m : Nat} (hm : m ≤ 2 * octave) (hm' : octave ≤ m) (k : Nat) :
    units ((1074 + k) * octave + m) = m * 2 ^ k * one := by
  rw [units_add hm (.inr hm'), one_eq]
  generalize 1074 = places
  rw [Nat.pow_add, Nat.mul_assoc, Nat.mul_comm (2 ^ k)]

/-- A whole number with at most 53 binary digits is a size. -/
theorem exists_units_eq_whole {n : Nat} (hn : n ≤ 2 * octave) : ∃ code, units code = n * one := by
  obtain ⟨places, hone⟩ : ∃ places, one = 2 ^ places := ⟨_, one_eq⟩
  rw [hone]
  exact exists_units_eq hn places

/-- From `2 ^ 52` on the sizes are whole numbers. -/
theorem one_dvd_units {code : Nat} (h : 1075 * octave ≤ code) : one ∣ units code := by
  obtain ⟨k, m, rfl, hm, hk⟩ := exists_eq_add code
  have hle : 1074 ≤ k := by
    simp only [octave] at h hm
    omega
  obtain ⟨places, hplaces, hone⟩ : ∃ places, places ≤ k ∧ one = 2 ^ places := ⟨_, hle, one_eq⟩
  rw [units_add hm.le hk, hone]
  exact Nat.dvd_mul_left_of_dvd (Nat.pow_dvd_pow 2 hplaces) m

end MarketQuery.Binary64
