import MarketQuery.Proofs.Json.Fields
import MarketQuery.Proofs.Json.NumberTokens
import MarketQuery.Proofs.Json.Scaling
import MarketQuery.Proofs.Number.Places
import MarketQuery.Proofs.Text.Ascii

/-!
# Numbers with and without quotes

A number in a field gives the same cell as the text of that number, with two exceptions: a zero with
a minus sign is a double without quotes and the integer zero within them, and a double that is kept
may be another one than the nearest, which is what a text is read as.

* `NumberToken.integer`, `NumberToken.IsMinusZero`, `NumberToken.IsNearest`: the integer of a token,
  a zero with a minus sign, and the number nearest to a token;
* `IsNumber.isDecimal`, `IsNumber.not_isDecimal`, `IsNumber.isReal`: a number as an integer to read
  and as a double to read;
* `IsNumber.ofNumberText_int`, `IsNumber.ofNumberText_float`: the cell of a number within quotes;
* `ofToken?_cases`: what is kept of a number without quotes;
* **`numberCell_quoted_iff`**: when the two cells are the same.
-/

namespace MarketQuery.Json

open MarketQuery.Number (IsSign IsDecimal IsReal IsNearestSize digitsValue signedInt fitsInt64)
open Binary64 (one)

/-! ## Tokens -/

namespace NumberToken

/-- The integer of the digits before the point, with the sign. -/
def integer (token : NumberToken) : Int :=
  signedInt token.negative (digitsValue token.numeral.whole)

/-- A zero with a minus sign, and neither a point nor an exponent. -/
def IsMinusZero (token : NumberToken) : Prop :=
  token.isInteger = true ∧ token.negative = true ∧ digitsValue token.numeral.whole = 0

/-- The number of the size nearest to the numeral, with the sign. -/
def IsNearest (token : NumberToken) (x : Binary64) : Prop :=
  ∃ code, IsNearestSize (token.numeral.value * one) code ∧ x = .ofCode token.negative code

end NumberToken

variable {cs : List Char} {t : String} {token : NumberToken} {x : Binary64}

/-- There is one nearest number, which is what a numeral is read as. -/
theorem NumberToken.isNearest_iff :
    token.IsNearest x ↔ x = token.numeral.toBinary64 token.negative := by
  constructor
  · rintro ⟨code, hcode, rfl⟩
    exact (Number.Numeral.toBinary64_eq_ofCode hcode).symm
  · rintro rfl
    obtain ⟨code, hcode⟩ := Number.exists_isNearestSize
      (digitsValue (token.numeral.whole ++ token.numeral.fraction))
      (token.numeral.exponent - token.numeral.fraction.length)
    exact ⟨code, hcode, Number.Numeral.toBinary64_eq_ofCode hcode⟩

theorem IsNumber.isReal (h : IsNumber cs token) :
    IsReal cs (token.numeral.toBinary64 token.negative) := by
  obtain ⟨sign, rest, rfl, hs, hn⟩ := h.isNumeral
  exact .numeral hs hn

theorem IsNumber.isDecimal (h : IsNumber cs token) (hint : token.isInteger = true) :
    IsDecimal cs token.integer := by
  obtain @⟨sign, whole, point, fraction, power, negative, exponent, hs, hplus, hwhole, -, -, -⟩ := h
  obtain ⟨hpoint, hpower⟩ := Bool.and_eq_true_iff.1 hint
  rw [of_decide_eq_true hpoint, of_decide_eq_true hpower, List.nil_append, List.append_nil,
    NumberToken.integer, Number.digitsValue_eq]
  cases hs with
  | plus => exact absurd rfl hplus
  | minus => exact .minus hwhole.ne_nil hwhole.isDigit
  | absent => exact .unsigned hwhole.ne_nil hwhole.isDigit

/-- A point or the letter of an exponent is in no integer. -/
theorem IsNumber.not_isDecimal (h : IsNumber cs token) (hint : ¬ token.isInteger = true) (z : Int) :
    ¬ IsDecimal cs z := by
  obtain @⟨sign, whole, point, fraction, power, negative, exponent, hs, -, -, hfraction, -,
    hexponent⟩ := h
  cases hfraction with
  | point =>
    refine Number.not_isDecimal_of_mem (c := '.') ?_ (by decide) (by decide)
    simp
  | absent =>
    cases hexponent with
    | absent => exact absurd rfl hint
    | @power e _ _ he =>
      refine Number.not_isDecimal_of_mem (c := e) (by simp) ?_ ?_
      · rcases he with rfl | rfl <;> decide
      · rcases he with rfl | rfl <;> decide

/-- The digits of an integer are those before the point. -/
theorem IsNumber.numeral_eq (h : IsNumber cs token) (hint : token.isInteger = true) :
    token.numeral = ⟨token.numeral.whole, [], 0⟩ := by
  obtain ⟨-, -, -, hfraction, -, hexponent⟩ := h
  obtain ⟨hpoint, hpower⟩ := Bool.and_eq_true_iff.1 hint
  cases hfraction with
  | point => exact absurd (of_decide_eq_true hpoint) (by simp)
  | absent =>
    cases hexponent with
    | power => exact absurd (of_decide_eq_true hpower) (by simp)
    | absent => rfl

/-- An integer gives the number nearest to it, but for the sign of zero. -/
theorem IsNumber.isNearest_ofInt (h : IsNumber cs token) (hint : token.isInteger = true)
    (hzero : ¬ token.IsMinusZero) : token.IsNearest (.ofInt token.integer) := by
  have hsize : token.integer.natAbs = digitsValue token.numeral.whole := by
    unfold NumberToken.integer signedInt
    split <;> omega
  have hsign : decide (token.integer < 0) = token.negative := by
    unfold NumberToken.integer signedInt
    split
    next hneg =>
      have : digitsValue token.numeral.whole ≠ 0 := fun h0 => hzero ⟨hint, hneg, h0⟩
      rw [hneg]
      exact decide_eq_true (by omega)
    next hneg =>
      rw [Bool.not_eq_true] at hneg
      rw [hneg]
      exact decide_eq_false (by omega)
  obtain ⟨code, hcode⟩ := Number.exists_isNearestSize (digitsValue token.numeral.whole) 0
  refine ⟨code, ?_, ?_⟩
  · rw [h.numeral_eq hint, Number.Numeral.value]
    simpa using hcode
  · rw [Binary64.ofInt, hsign, hsize]
    refine Number.ofRatio_eq_ofCode (by decide) ?_
    simpa using hcode

theorem digit_eq_zero {c : Char} (hc : c.isDigit) (h : Number.digitOf c = 0) : c = '0' := by
  have hbounds : 48 ≤ c.toNat ∧ c.toNat ≤ 57 := Char.isDigit_iff_toNat.1 hc
  change c.toNat - 48 = 0 at h
  exact Char.toNat_inj.1 (by change c.toNat = 48; omega)

theorem IsWhole.eq_zero {whole : List Char} (h : IsWhole whole) (hzero : digitsValue whole = 0) :
    whole = ['0'] := by
  refine h.zero_alone ?_
  obtain ⟨c, digits, rfl⟩ := List.exists_cons_of_ne_nil h.ne_nil
  rw [Number.digitsValue_eq, Number.placeValue_cons] at hzero
  have hdigit : Number.digitOf c = 0 :=
    (Nat.mul_eq_zero.1 (Nat.add_eq_zero_iff.1 hzero).1).resolve_right (Nat.pow_pos (by decide)).ne'
  rw [digit_eq_zero (h.isDigit c List.mem_cons_self) hdigit]
  rfl

/-- A zero with a minus sign has one text. -/
theorem IsNumber.isMinusZero_iff (h : IsNumber cs token) :
    token.IsMinusZero ↔ cs = ['-', '0'] := by
  constructor
  · rintro ⟨hint, hnegative, hzero⟩
    obtain @⟨sign, whole, point, fraction, power, negative, exponent, hs, -, hwhole, -, -, -⟩ := h
    obtain ⟨hpoint, hpower⟩ := Bool.and_eq_true_iff.1 hint
    rw [of_decide_eq_true hpoint, of_decide_eq_true hpower, hwhole.eq_zero hzero]
    cases hs with
    | minus => rfl
    | plus | absent => exact absurd hnegative Bool.false_ne_true
  · rintro rfl
    have hread : readNumber? ['-', '0'] = some (⟨true, ⟨['0'], [], 0⟩, true⟩, []) := by decide
    have htoken := (readNumber?_eq_some_iff.2 h).symm.trans hread
    rw [(Prod.mk.inj (Option.some.inj htoken)).1]
    exact ⟨rfl, rfl, rfl⟩

/-! ## Within quotes -/

theorem IsNumber.ofNumberText_int (h : IsNumber t.toList token) (hint : token.isInteger = true)
    {n : Int64} (hn : n.toInt = token.integer) : Cell.ofNumberText t = .int n := by
  have hdecimal : IsDecimal t.toList n.toInt := hn ▸ h.isDecimal hint
  exact Cell.ofNumberText_of (.integer hdecimal.trimsTo hdecimal)

theorem IsNumber.ofNumberText_minusZero (h : IsNumber t.toList token) (hzero : token.IsMinusZero) :
    Cell.ofNumberText t = .int 0 := by
  refine h.ofNumberText_int hzero.1 ?_
  rw [NumberToken.integer, hzero.2.1, hzero.2.2]
  rfl

theorem IsNumber.ofNumberText_float (h : IsNumber t.toList token)
    (hint : token.isInteger = true → ∀ n : Int64, n.toInt ≠ token.integer) :
    Cell.ofNumberText t = .float (token.numeral.toBinary64 token.negative) := by
  refine Cell.ofNumberText_of (.real h.isReal.trimsTo (fun n hn => ?_) h.isReal)
  by_cases hi : token.isInteger = true
  · exact hint hi n (hn.unique (h.isDecimal hi))
  · exact h.not_isDecimal hi n.toInt hn

/-! ## Without quotes -/

/-- An integer is kept if it fits, but for a zero with a minus sign, and a double else. -/
theorem ofToken?_cases {n : Number} (h : Number.ofToken? token = some n) :
    (token.isInteger = true ∧ ¬ token.IsMinusZero ∧ n = .integer token.integer) ∨
      ∃ x, Number.float? token.negative token.numeral = some x ∧ n = .float x ∧
        (token.isInteger = true → (∃ m : Int64, m.toInt = token.integer) → token.IsMinusZero) := by
  obtain ⟨negative, numeral, isInteger⟩ := token
  unfold Number.ofToken? at h
  dsimp only at h
  split at h
  next hnat =>
    simp only [Bool.and_eq_true, Bool.not_eq_true'] at hnat
    obtain ⟨⟨rfl, rfl⟩, -⟩ := hnat
    exact .inl ⟨rfl, fun hzero => Bool.false_ne_true hzero.2.1, (Option.some.inj h).symm⟩
  next hnat =>
    split at h
    next hneg =>
      simp only [Bool.and_eq_true, decide_eq_true_iff] at hneg
      obtain ⟨⟨⟨rfl, rfl⟩, hpos⟩, -⟩ := hneg
      exact .inl ⟨rfl, fun hzero => hpos.ne' hzero.2.2, (Option.some.inj h).symm⟩
    next hneg =>
      obtain ⟨x, hx, rfl⟩ := Option.map_eq_some_iff.1 h
      refine .inr ⟨x, hx, rfl, ?_⟩
      rintro (rfl : isInteger = true) hfits
      rw [← Number.fitsInt64_iff] at hfits
      cases negative with
      | true =>
        have hfits : Number.fitsInt64 (-(digitsValue numeral.whole : Int)) = true := hfits
        refine ⟨rfl, rfl, ?_⟩
        simpa [hfits] using hneg
      | false =>
        have hnat' : Number.fitsNat64 (digitsValue numeral.whole) = true := by
          have hbounds : fitsInt64 (digitsValue numeral.whole) = true := hfits
          simp only [fitsInt64, Bool.and_eq_true, decide_eq_true_iff] at hbounds
          exact decide_eq_true (by omega)
        simp [hnat'] at hnat

/-- A zero with a minus sign is kept as a double, which has the sign. -/
theorem IsNumber.float?_minusZero (h : IsNumber cs token) (hzero : token.IsMinusZero)
    (hx : Number.float? token.negative token.numeral = some x) : x = .zero true := by
  have hvalue : digitsValue (token.numeral.whole ++ token.numeral.fraction) = 0 := by
    rw [h.numeral_eq hzero.1, List.append_nil]
    exact hzero.2.2
  have hexponent : (token.numeral.exponent - token.numeral.fraction.length).natAbs = 0 := by
    rw [h.numeral_eq hzero.1]
    rfl
  obtain ⟨code, hcode, rfl⟩ := Number.isNearestSize_of_float? (by omega) (by omega) hx
  rw [Number.Numeral.value, hvalue, Nat.cast_zero, zero_mul, zero_mul] at hcode
  rw [hcode.unique (Number.isNearestSize_zero le_rfl (by norm_num)), hzero.2.1]
  rfl

/-! ## Both -/

/-- The cells of a number without and within quotes: an integer, or two doubles of which the second
is nearest to the number. -/
inductive SameKind (token : NumberToken) : Cell → Cell → Prop
  | integer (n : Int64) : SameKind token (.int n) (.int n)
  | double {x y : Binary64} (hy : token.IsNearest y) : SameKind token (.float x) (.float y)

theorem exists_cell_of_integer (h : IsNumber t.toList token) (hint : token.isInteger = true)
    (hzero : ¬ token.IsMinusZero) : ∃ c,
      numberCell (some (.number (.integer token.integer))) = c ∧ Cell.ofNumberText t = c ∧
        SameKind token c c := by
  by_cases hfits : ∃ n : Int64, n.toInt = token.integer
  · obtain ⟨n, hn⟩ := hfits
    refine ⟨.int n, ?_, h.ofNumberText_int hint hn, .integer n⟩
    rw [← hn]
    exact numberCell_of (.integer n)
  · have hbeyond : ∀ n : Int64, n.toInt ≠ token.integer := not_exists.1 hfits
    have hnearest := h.isNearest_ofInt hint hzero
    refine ⟨.float (.ofInt token.integer), numberCell_of (.beyond hbeyond), ?_, .double hnearest⟩
    rw [h.ofNumberText_float fun _ => hbeyond, ← NumberToken.isNearest_iff.1 hnearest]

/-- A number is written with characters that stand for themselves in a literal. -/
theorem IsNumber.read?_quoted (h : IsNumber t.toList token) :
    Value.read? (quoted t) = some (.string t) := by
  refine Value.read?_quoted fun c hc => ?_
  have hchar := Number.isNumberChar_of_isReal h.isReal c hc
  refine ⟨(Text.isPrintableAscii_of_isNumberChar hchar).1, ?_, ?_⟩
  · rintro rfl
    exact absurd hchar (by decide)
  · rintro rfl
    exact absurd hchar (by decide)

/-- **A number is the same with and without quotes**, of the same kind and to the last bit, if the
double that is kept of it is the nearest one, as it is for digits up to `2 ^ 53` and powers of ten
up to `10 ^ 22`, and if it is no zero with a minus sign. That zero is a double without quotes, and
the integer zero within them. Other numbers are of the same kind in any case, and within quotes the
nearest one. -/
theorem numberCell_quoted_iff {v : Value} (ht : IsNumber t.toList token)
    (hv : Value.read? t = some v) :
    Value.read? (quoted t) = some (.string t) ∧
    (numberCell (some v) = numberCell (some (.string t)) ↔
      t ≠ "-0" ∧ ∀ x, v = .number (.float x) → token.IsNearest x) ∧
    (t ≠ "-0" → SameKind token (numberCell (some v)) (numberCell (some (.string t)))) ∧
    (t ≠ "-0" → digitsValue (token.numeral.whole ++ token.numeral.fraction) ≤ 2 ^ 53 →
      (token.numeral.exponent - token.numeral.fraction.length).natAbs ≤ 22 →
      numberCell (some v) = numberCell (some (.string t))) ∧
    (t = "-0" →
      numberCell (some v) = .float (.zero true) ∧ numberCell (some (.string t)) = .int 0) := by
  have hminus : t = "-0" ↔ token.IsMinusZero := by
    rw [ht.isMinusZero_iff, ← String.toList_inj]
    exact Iff.rfl
  rw [Value.read?_number ht] at hv
  obtain ⟨n, hn, rfl⟩ := Option.map_eq_some_iff.1 hv
  have htext : numberCell (some (.string t)) = Cell.ofNumberText t := rfl
  rw [htext, ne_eq, hminus]
  refine ⟨ht.read?_quoted, ?_⟩
  rcases ofToken?_cases hn with ⟨hint, hzero, rfl⟩ | ⟨x, hx, rfl, hfits⟩
  · obtain ⟨c, hbare, hquoted, hkind⟩ := exists_cell_of_integer ht hint hzero
    rw [hbare, hquoted]
    exact ⟨iff_of_true rfl ⟨hzero, by simp⟩, fun _ => hkind, fun _ _ _ => rfl,
      fun h => absurd h hzero⟩
  · have hbare : numberCell (some (.number (.float x))) = .float x := rfl
    rw [hbare]
    by_cases hzero : token.IsMinusZero
    · rw [ht.ofNumberText_minusZero hzero, ht.float?_minusZero hzero hx]
      exact ⟨iff_of_false Cell.noConfusion fun h => h.1 hzero, fun h => absurd hzero h,
        fun h => absurd hzero h, fun _ => ⟨rfl, rfl⟩⟩
    · have hbeyond : token.isInteger = true → ∀ n : Int64, n.toInt ≠ token.integer :=
        fun hint n hn => hzero (hfits hint ⟨n, hn⟩)
      have hnearest : token.IsNearest (token.numeral.toBinary64 token.negative) :=
        NumberToken.isNearest_iff.2 rfl
      have hiff : Cell.float x = .float (token.numeral.toBinary64 token.negative) ↔
          token.IsNearest x := by
        rw [NumberToken.isNearest_iff, Cell.float.injEq]
      rw [ht.ofNumberText_float hbeyond, hiff]
      refine ⟨?_, fun _ => .double hnearest, fun _ hdigits hexponent => ?_, fun h => absurd h hzero⟩
      · simp [hzero]
      · exact Number.isNearestSize_of_float? hdigits hexponent hx

/-- A number with a point and an exponent, below zero. -/
def minusOneAndQuarter : NumberToken := ⟨true, ⟨['1', '2'], ['5'], -1⟩, false⟩

theorem numberCell_quoted_iff_minusOneAndQuarter :
    IsNumber "-12.5e-1".toList minusOneAndQuarter ∧
    ∃ x, Value.read? "-12.5e-1" = some (.number (.float x)) ∧
      Value.read? (quoted "-12.5e-1") = some (.string "-12.5e-1") ∧
      numberCell (some (.number (.float x))) = numberCell (some (.string "-12.5e-1")) := by
  have hnumber : IsNumber "-12.5e-1".toList minusOneAndQuarter :=
    readNumber?_eq_some_iff.1 (by decide)
  let x : Binary64 := .finite true ⟨4608308318706860032, by decide⟩
  have hread : Value.read? "-12.5e-1" = some (.number (.float x)) := by decide +kernel
  obtain ⟨hquoted, -, -, hsame, -⟩ := numberCell_quoted_iff hnumber hread
  exact ⟨hnumber, x, hread, hquoted, hsame (by decide) (by decide) (by decide)⟩

/-- The double that is kept is not always the nearest one. -/
example : ∃ x, Value.read? "2e-39" = some (.number (.float x)) ∧
    numberCell (some (.number (.float x))) ≠ numberCell (some (.string "2e-39")) :=
  ⟨.finite false ⟨4027844449405316484, by decide⟩, by decide +kernel, by decide +kernel⟩

/-- A zero with a minus sign. -/
def minusZero : NumberToken := ⟨true, ⟨['0'], [], 0⟩, true⟩

/-- The double that is kept of a zero with a minus sign is the nearest one, and yet another cell
than the integer that its text gives. -/
theorem numberCell_minusZero_ne :
    IsNumber "-0".toList minusZero ∧
    Value.read? "-0" = some (.number (.float (.zero true))) ∧
    minusZero.IsNearest (.zero true) ∧
    numberCell (some (.number (.float (.zero true)))) = .float (.zero true) ∧
    numberCell (some (.string "-0")) = .int 0 ∧
    numberCell (some (.number (.float (.zero true)))) ≠ numberCell (some (.string "-0")) :=
  ⟨readNumber?_eq_some_iff.1 (by decide), by decide +kernel,
    NumberToken.isNearest_iff.2 (by decide), rfl, by decide, by decide⟩

end MarketQuery.Json
