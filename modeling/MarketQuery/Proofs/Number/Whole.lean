import MarketQuery.Proofs.Number.Denoted
import MarketQuery.Proofs.Number.Sizes
import MarketQuery.Value

/-!
# Whole numbers as text

A whole number is written with its digits, and with zeros alone if there are places behind the
point.

* `zeros`, `IsPlain`: the digits of a natural number behind its sign, with at most zeros behind a
  point;
* `exists_numeral?_of_isPlain`, `denoted?_of_isPlain`, `notMem_of_isPlain`: such a text denotes the
  number, without an exponent;
* `isPlain_intText`: integers are written so;
* `isPlain_fixed`: and so are whole numbers with a given count of places.
-/

namespace MarketQuery

namespace Number

open Binary64 (one units)

/-- A point with zeros behind it, if there are places. -/
def zeros (places : Nat) : List Char :=
  if places = 0 then [] else '.' :: List.replicate places '0'

/-- The text is a natural number behind its sign, with at most zeros behind a point. -/
def IsPlain (s : String) (negative : Bool) (n : Nat) : Prop :=
  ∃ places, s = .ofList (signed negative (digitsOf n ++ zeros places))

variable {s : String} {negative : Bool} {n : Nat}

/-! ## Digits with zeros behind the point -/

theorem digitsOf_mul_ten (hn : 0 < n) : digitsOf (n * 10) = digitsOf n ++ ['0'] := by
  have h := Nat.toDigits_append_toDigits (b := 10) (d := 0) (by decide) hn (by decide)
  rw [Nat.mul_comm]
  exact h.symm

theorem digitsOf_mul_pow (hn : 0 < n) (places : Nat) :
    digitsOf (n * 10 ^ places) = digitsOf n ++ List.replicate places '0' := by
  induction places with
  | zero => rw [Nat.pow_zero, Nat.mul_one, List.replicate_zero, List.append_nil]
  | succ places ih =>
    have hpos : 0 < n * 10 ^ places := Nat.mul_pos hn (Nat.pow_pos (by decide))
    rw [Nat.pow_succ, ← Nat.mul_assoc, digitsOf_mul_ten hpos, ih, List.append_assoc,
      List.replicate_succ']

/-- Zero has no digits to put behind the point, so it is padded with as many as there are places. -/
theorem padded_digitsOf_mul_pow (n places : Nat) :
    List.replicate (places + 1 - (digitsOf (n * 10 ^ places)).length) '0' ++
      digitsOf (n * 10 ^ places) = digitsOf n ++ List.replicate places '0' := by
  rcases Nat.eq_zero_or_pos n with rfl | hn
  · rw [Nat.zero_mul]
    change List.replicate places '0' ++ ['0'] = '0' :: List.replicate places '0'
    rw [← List.replicate_succ', List.replicate_succ]
  · have hlength : 0 < (digitsOf n).length := List.length_pos_iff.2 Nat.toDigits_ne_nil
    rw [digitsOf_mul_pow hn, List.length_append, List.length_replicate]
    have hnone : places + 1 - ((digitsOf n).length + places) = 0 := by omega
    rw [hnone, List.replicate_zero, List.nil_append]

theorem pointed_digitsOf_mul_pow (n places : Nat) :
    pointed places (digitsOf (n * 10 ^ places)) = digitsOf n ++ zeros places := by
  unfold pointed
  dsimp only
  rw [padded_digitsOf_mul_pow, List.length_append, List.length_replicate, Nat.add_sub_cancel,
    List.take_left, List.drop_left, zeros]
  split
  · rw [List.append_nil]
  · rfl

/-! ## What is denoted -/

theorem exists_numeral?_of_isPlain (h : IsPlain s negative n) :
    ∃ numeral, numeral? s = some (negative, numeral) ∧ numeral.value = n := by
  obtain ⟨places, rfl⟩ := h
  obtain ⟨numeral, hread, -, hvalue⟩ := numeral?_pointed places negative (n * 10 ^ places)
  rw [pointed_digitsOf_mul_pow] at hread
  have hpow : (10 : ℚ) ^ places ≠ 0 := by positivity
  push_cast at hvalue
  rw [mul_div_cancel_right₀ _ hpow] at hvalue
  exact ⟨numeral, hread, hvalue⟩

theorem denoted?_of_isPlain (h : IsPlain s negative n) :
    denoted? s = some (withSign negative n) := by
  obtain ⟨numeral, hread, hvalue⟩ := exists_numeral?_of_isPlain h
  simp only [denoted?, hread, Option.map_some, hvalue]

theorem notMem_of_isPlain (h : IsPlain s negative n) : 'e' ∉ s.toList := by
  obtain ⟨places, rfl⟩ := h
  have hdigits : 'e' ∉ digitsOf n :=
    fun he => absurd (isDigit_of_mem_digitsOf n 'e' he) (by decide)
  have hzeros : 'e' ∉ zeros places := by
    unfold zeros
    split <;> simp
  rw [String.toList_ofList]
  cases negative <;> simp [signed, hdigits, hzeros]

/-! ## Integers and whole numbers -/

theorem isPlain_intText (n : Int64) :
    IsPlain (intText n) (decide (n.toInt < 0)) n.toInt.natAbs := by
  refine ⟨0, ?_⟩
  by_cases h : n.toInt < 0 <;> simp [intText, ofInt, signed, zeros, h]

theorem roundHalfEven_mul (n : Nat) {b : Nat} (hb : 0 < b) : roundHalfEven (n * b) b = n := by
  have hmod : n * b % b = 0 := Nat.mul_mod_left n b
  simp only [roundHalfEven, hmod, Nat.mul_zero, if_pos hb, Nat.mul_div_cancel n hb]

theorem inPlaces_of_whole {code : Nat} (h : units code = n * one) (places : Nat) :
    inPlaces places code = n * 10 ^ places := by
  rw [inPlaces, h, Nat.mul_right_comm]
  exact roundHalfEven_mul _ Binary64.one_pos

theorem isPlain_fixed {code : Fin Binary64.codeBound} (h : units code = n * one) (places : Nat)
    (negative : Bool) : IsPlain (fixed places (.finite negative code)) negative n := by
  refine ⟨places, ?_⟩
  rw [fixed, inPlaces_of_whole h, pointed_digitsOf_mul_pow]

end Number

end MarketQuery
