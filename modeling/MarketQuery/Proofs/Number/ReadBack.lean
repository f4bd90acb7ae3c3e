import MarketQuery.Proofs.Number.NearestDecimal
import MarketQuery.Proofs.Number.Whole

/-!
# Written numbers are read back

A number is written with the digits of a decimal that is nearest to it, so what is read is the same
number, in whatever style it was written.

* `inPlace_eq_pointed`: a decimal with its point in place, as digits with so many places;
* `exists_numeral?_writeDecimal`: a written decimal denotes itself;
* `isReal_of_numeral?`: a numeral is read as the number of the nearest size;
* **`isReal_write`**: a written number is read as itself;
* `mem_writeDecimal_source`: with a point or an exponent, where the style asks for one.
-/

namespace MarketQuery.Number

open Binary64 (codeBound one units)

variable {negative : Bool} {d : Decimal} {s : String}

/-! ## Written decimals -/

/-- A whole number with a zero behind its point is one with a place behind it. -/
theorem inPlace_eq_pointed (keepsPoint : Bool) (d : Decimal) : ∃ places n,
    inPlace keepsPoint d = pointed places (digitsOf n) ∧ (n / 10 ^ places : ℚ) = d.value := by
  obtain ⟨digits, exponent⟩ := d
  rcases lt_or_ge exponent 0 with hneg | hpos
  · obtain ⟨places, rfl⟩ : ∃ places : Nat, exponent = -places := ⟨exponent.natAbs, by omega⟩
    refine ⟨places, digits, ?_, ?_⟩
    · simp only [inPlace, if_neg (not_le.2 hneg), neg_neg, Int.toNat_natCast]
    · rw [Decimal.value, zpow_neg, zpow_natCast, div_eq_mul_inv]
  · obtain ⟨k, rfl⟩ := Int.eq_ofNat_of_zero_le hpos
    let places := if keepsPoint then 1 else 0
    refine ⟨places, digits * 10 ^ k * 10 ^ places, ?_, ?_⟩
    · simp only [pointed_digitsOf_mul_pow, inPlace, if_pos hpos, Int.toNat_natCast]
      cases keepsPoint <;> rfl
    · push_cast
      rw [mul_div_cancel_right₀ _ (by positivity), Decimal.value, zpow_natCast]

/-- A written decimal denotes itself. -/
theorem exists_numeral?_writeDecimal (style : Style) (negative : Bool) (d : Decimal) :
    ∃ n, numeral? (.ofList (signed negative (style.writeDecimal d))) = some (negative, n) ∧
      n.value = d.value := by
  unfold Style.writeDecimal
  split
  · obtain ⟨places, digits, htext, hvalue⟩ := inPlace_eq_pointed style.keepsPoint d
    obtain ⟨n, hn, -, hdenoted⟩ := numeral?_pointed places negative digits
    exact ⟨n, htext ▸ hn, hdenoted.trans hvalue⟩
  · exact numeral?_withExponent style.plusSign negative d

/-! ## Numbers -/

/-- A numeral is read as the number of the nearest size. -/
theorem isReal_of_numeral? {n : Numeral} {code : Nat} (hn : numeral? s = some (negative, n))
    (h : IsNearestSize (n.value * one) code) : IsReal s.toList (.ofCode negative code) := by
  obtain ⟨sign, negative', cs, hsign, hs, hcs⟩ := exists_readSign s.toList
  rw [numeral?, hsign] at hn
  obtain ⟨n', hread, hpair⟩ := Option.map_eq_some_iff.1 hn
  obtain ⟨rfl, rfl⟩ := Prod.mk.inj hpair
  rw [hcs, ← Numeral.toBinary64_eq_ofCode h]
  exact .numeral hs (Numeral.read?_eq_some_iff.1 hread)

theorem isReal_nanText : IsReal nanText.toList .nan := by
  have h : IsReal ([] ++ nanText.toList) .nan := .nan .absent (by decide)
  exact h

theorem isReal_infiniteText (negative : Bool) :
    IsReal (infiniteText negative).toList (.infinite negative) := by
  have hword : IsWord "inf" "inf".toList := by decide
  cases negative with
  | true =>
    have htext : (infiniteText true).toList = ['-'] ++ "inf".toList := by decide
    exact htext ▸ .infinite .minus (.inl hword)
  | false =>
    have htext : (infiniteText false).toList = [] ++ "inf".toList := by decide
    exact htext ▸ .infinite .absent (.inl hword)

/-- **A written number is read as itself**, whatever the style. -/
theorem isReal_write (style : Style) (x : Binary64) : IsReal (write style x).toList x := by
  cases x with
  | nan => exact isReal_nanText
  | infinite negative => exact isReal_infiniteText negative
  | finite negative code =>
    obtain ⟨n, hn, hvalue⟩ :=
      exists_numeral?_writeDecimal style negative (decimalOf style.tie code.val)
    have hnearest : IsNearestSize (n.value * one) code.val := by
      rw [hvalue]
      exact reads_iff.1 (reads_decimalOf style.tie code.val)
    have hread := isReal_of_numeral? hn hnearest
    rwa [Binary64.ofCode, dif_pos code.isLt] at hread

/-! ## Points and exponents -/

theorem mem_pointed {places : Nat} (h : places ≠ 0) (digits : List Char) :
    '.' ∈ pointed places digits := by
  simp [pointed, h]

/-- In the style that keeps the point there is one, or an exponent. -/
theorem mem_writeDecimal_source (d : Decimal) :
    '.' ∈ Style.source.writeDecimal d ∨ 'e' ∈ Style.source.writeDecimal d := by
  unfold Style.writeDecimal
  split
  · refine .inl ?_
    change '.' ∈ inPlace true d
    unfold inPlace
    split
    · simp
    · exact mem_pointed (by omega) _
  · refine .inr ?_
    simp [withExponent]

end MarketQuery.Number
