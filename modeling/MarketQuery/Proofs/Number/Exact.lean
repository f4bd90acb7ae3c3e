import Mathlib.Data.Sign.Defs
import MarketQuery.Proofs.Number.Denoted
import MarketQuery.Proofs.Number.Nearest
import MarketQuery.Proofs.Number.Sizes

/-!
# Numbers as exact rationals

* `Binary64.rational?`: the rational that a finite number is;
* `rounds_of_fixed`: a number with a given count of places is shown rounded to so many;
* `sign_of_scientific`: a number with an exponent is shown with its sign, and not as zero.
-/

namespace MarketQuery

namespace Binary64

/-- The rational that a finite number is. -/
def rational? : Binary64 → Option ℚ
  | finite negative code => some (Number.withSign negative ((units code : ℚ) / one))
  | _ => none

theorem rational?_eq_some_iff {b : Binary64} {x : ℚ} :
    b.rational? = some x ↔
      ∃ negative code, b = .finite negative code ∧
        x = Number.withSign negative (units code / one) := by
  cases b with
  | nan => simp [rational?]
  | infinite negative => simp [rational?]
  | finite negative code =>
    simp only [rational?, Option.some.injEq, finite.injEq]
    constructor
    · rintro rfl
      exact ⟨negative, code, ⟨rfl, rfl⟩, rfl⟩
    · rintro ⟨_, _, ⟨rfl, rfl⟩, rfl⟩
      rfl

end Binary64

namespace Number

open Binary64 (one units units_pos)

/-! ## Signs -/

variable {negative : Bool} {x y q : ℚ} {places : Nat}

theorem withSign_inj : withSign negative x = withSign negative y ↔ x = y := by
  cases negative with
  | true => exact neg_inj
  | false => exact Iff.rfl

theorem withSign_eq_zero_iff : withSign negative x = 0 ↔ x = 0 := by
  cases negative with
  | true => exact neg_eq_zero
  | false => exact Iff.rfl

theorem sign_withSign (hx : 0 < x) (hy : 0 < y) :
    SignType.sign (withSign negative x) = SignType.sign (withSign negative y) := by
  cases negative with
  | true =>
    have hx' : -x < 0 := neg_neg_of_pos hx
    have hy' : -y < 0 := neg_neg_of_pos hy
    change SignType.sign (-x) = SignType.sign (-y)
    rw [sign_neg hx', sign_neg hy']
  | false =>
    change SignType.sign x = SignType.sign y
    rw [sign_pos hx, sign_pos hy]

theorem Rounds.withSign (h : Rounds places x q) (negative : Bool) :
    Rounds places (withSign negative x) (withSign negative q) := by
  cases negative with
  | true => exact h.neg
  | false => exact h

/-- A number that does not round to zero keeps its sign. -/
theorem Rounds.sign_eq (h : Rounds places x q) (hq : q ≠ 0) :
    SignType.sign q = SignType.sign x := by
  obtain ⟨n, hn, rfl⟩ := h
  have hpow : (0 : ℚ) < 10 ^ places := by positivity
  obtain ⟨hl, hu⟩ := abs_le.1 hn.near
  rcases lt_trichotomy n 0 with hneg | rfl | hpos
  · have hle : (n : ℚ) ≤ -1 := by exact_mod_cast Int.le_sub_one_of_lt hneg
    have hx : x < 0 := neg_of_mul_neg_left (by linarith) hpow.le
    rw [sign_neg hx, sign_neg (div_neg_of_neg_of_pos (by linarith) hpow)]
  · exact absurd (by simp) hq
  · have hle : (1 : ℚ) ≤ n := by exact_mod_cast hpos
    have hx : 0 < x := pos_of_mul_pos_left (by linarith) hpow.le
    rw [sign_pos hx, sign_pos (div_pos (by linarith) hpow)]

/-! ## Numbers in places -/

theorem rounds_inPlaces (places code : Nat) :
    Rounds places (units code / one) (inPlaces places code / 10 ^ places) := by
  refine ⟨inPlaces places code, ?_, by push_cast; rfl⟩
  have h := isNearest_roundHalfEven (units code * 10 ^ places) Binary64.one_pos
  have hratio : ((units code * 10 ^ places : ℕ) : ℚ) / one = units code / one * 10 ^ places := by
    push_cast
    ring
  rw [hratio] at h
  exact h

/-- A number with a given count of places is shown rounded to so many. -/
theorem rounds_of_fixed {b : Binary64} (hx : b.rational? = some x) (places : Nat) :
    ∃ negative n, numeral? (fixed places b) = some (negative, n) ∧ n.fraction.length = places ∧
      Rounds places x (withSign negative n.value) := by
  obtain ⟨negative, code, rfl, rfl⟩ := Binary64.rational?_eq_some_iff.1 hx
  obtain ⟨n, hn, hlength, hvalue⟩ := numeral?_fixed places negative code
  refine ⟨negative, n, hn, hlength, ?_⟩
  rw [hvalue]
  exact (rounds_inPlaces places code).withSign negative

/-! ## Numbers with an exponent -/

theorem digits_pos_of_reads {code : Nat} {d : Decimal} (h : code ≠ 0) (hd : Reads code d) :
    0 < d.digits := by
  have hpos : 0 < (units (code - 1) + units code) * gridDenominator d.exponent :=
    Nat.mul_pos (Nat.add_pos_right _ (units_pos h)) (Nat.pow_pos (by decide))
  rcases Nat.eq_zero_or_pos d.digits with hzero | hzero
  · rw [Reads, hzero, Nat.zero_mul] at hd
    split at hd <;> omega
  · exact hzero

theorem digits_pos_shortestFrom {tie : Tie} {code : Nat} (h : code ≠ 0) (steps : Nat)
    (exponent : Int) : 0 < (shortestFrom tie code steps exponent).digits := by
  induction steps generalizing exponent with
  | zero =>
    rw [shortestFrom, exactly]
    generalize 1074 = places
    exact Nat.mul_pos (units_pos h) (Nat.pow_pos (by decide))
  | succ steps ih =>
    rw [shortestFrom]
    cases hgrid : onGrid? tie code exponent with
    | none => exact ih (exponent - 1)
    | some d => exact digits_pos_of_reads h (reads_of_onGrid? hgrid)

/-- A number with an exponent is shown with its sign, and not as zero unless it is. -/
theorem sign_of_scientific {b : Binary64} (hx : b.rational? = some x) (h : x ≠ 0) :
    ∃ q, denoted? (write .scientific b) = some q ∧ SignType.sign q = SignType.sign x := by
  obtain ⟨negative, code, rfl, rfl⟩ := Binary64.rational?_eq_some_iff.1 hx
  obtain ⟨n, hn, hvalue⟩ := numeral?_scientific negative code
  have hcode : code.val ≠ 0 := by
    intro hzero
    refine h (withSign_eq_zero_iff.2 ?_)
    rw [hzero, Binary64.units_zero, Nat.cast_zero, zero_div]
  refine ⟨withSign negative n.value, by rw [denoted?, hn]; rfl, sign_withSign ?_ ?_⟩
  · have hdigits : 0 < (decimalOf .up code.val).digits := by
      rw [decimalOf, if_neg hcode]
      exact digits_pos_shortestFrom hcode _ _
    rw [hvalue]
    exact mul_pos (by exact_mod_cast hdigits) (zpow_pos (by norm_num) _)
  · have hunits := units_pos hcode
    have hone := Binary64.one_pos
    positivity

end Number

end MarketQuery
