import Mathlib.Data.Nat.Digits.Defs
import MarketQuery.Number.Reader

/-!
# Integers written with digits

* `digitOf`, `placeValue`: the value of a digit, and of digits by their places;
* `IsDecimal`: the integer that digits with an optional sign stand for;
* `digitsValue_eq`: digits are read as their places say;
* `isDecimal_iff`, `IsDecimal.unique`: they stand for one integer;
* `readInt64?_eq_some_iff`, `readInt64?_eq_none_iff`: an integer of 64 bits is read just where it is
  written.
-/

namespace MarketQuery.Number

/-- The value of a decimal digit. -/
def digitOf (c : Char) : Nat := c.toNat - '0'.toNat

/-- The value of decimal digits: the last counts ones, the one before it tens, and so on. -/
def placeValue (digits : List Char) : Nat := Nat.ofDigits 10 (digits.map digitOf).reverse

/-- One or more decimal digits with an optional sign stand for an integer. -/
inductive IsDecimal : List Char → Int → Prop
  | unsigned {digits : List Char} (hne : digits ≠ []) (hd : ∀ c ∈ digits, c.isDigit) :
      IsDecimal digits (placeValue digits)
  | plus {digits : List Char} (hne : digits ≠ []) (hd : ∀ c ∈ digits, c.isDigit) :
      IsDecimal ('+' :: digits) (placeValue digits)
  | minus {digits : List Char} (hne : digits ≠ []) (hd : ∀ c ∈ digits, c.isDigit) :
      IsDecimal ('-' :: digits) (-placeValue digits)

theorem digitsValue_eq (digits : List Char) : digitsValue digits = placeValue digits := by
  rw [digitsValue, placeValue, Nat.ofDigits_eq_foldr, List.foldr_reverse, List.foldl_map]
  refine congrArg (List.foldl · 0 digits) ?_
  funext n c
  rw [Nat.add_comm]
  rfl

theorem ne_sign_of_isDigit {c : Char} (h : c.isDigit) : c ≠ '+' ∧ c ≠ '-' := by
  constructor
  · rintro rfl
    exact absurd h (by decide)
  · rintro rfl
    exact absurd h (by decide)

theorem readSign_of_digits {digits : List Char} (hd : ∀ c ∈ digits, c.isDigit) :
    readSign digits = (false, digits) := by
  unfold readSign
  split
  · exact absurd (hd '-' List.mem_cons_self) (by decide)
  · exact absurd (hd '+' List.mem_cons_self) (by decide)
  · rfl

theorem isDecimal_iff {cs : List Char} {z : Int} : IsDecimal cs z ↔
    (readSign cs).2 ≠ [] ∧ (∀ c ∈ (readSign cs).2, c.isDigit) ∧
      z = signedInt (readSign cs).1 (placeValue (readSign cs).2) := by
  constructor
  · intro h
    cases h with
    | unsigned hne hd =>
      rw [readSign_of_digits hd]
      exact ⟨hne, hd, rfl⟩
    | plus hne hd | minus hne hd => exact ⟨hne, hd, rfl⟩
  · rintro ⟨hne, hd, rfl⟩
    revert hne hd
    unfold readSign
    split
    · exact .minus
    · exact .plus
    · exact .unsigned

theorem IsDecimal.unique {cs : List Char} {z z' : Int} (h : IsDecimal cs z)
    (h' : IsDecimal cs z') : z = z' :=
  (isDecimal_iff.1 h).2.2.trans (isDecimal_iff.1 h').2.2.symm

theorem fitsInt64_iff {z : Int} : fitsInt64 z = true ↔ ∃ n : Int64, n.toInt = z := by
  rw [fitsInt64, Bool.and_eq_true, decide_eq_true_iff, decide_eq_true_iff]
  constructor
  · rintro ⟨hl, hu⟩
    exact ⟨.ofInt z, Int64.toInt_ofInt_of_le hl hu⟩
  · rintro ⟨n, rfl⟩
    exact ⟨n.le_toInt, n.toInt_lt⟩

/-- An integer of 64 bits is read just where it is written. -/
theorem readInt64?_eq_some_iff {cs : List Char} {n : Int64} :
    readInt64? cs = some n ↔ IsDecimal cs n.toInt := by
  rw [isDecimal_iff, ← digitsValue_eq, ← List.all_eq_true]
  simp only [readInt64?, Option.ite_none_right_eq_some, Option.some.injEq]
  constructor
  · rintro ⟨⟨hne, hd, hfit⟩, rfl⟩
    obtain ⟨n, hn⟩ := fitsInt64_iff.1 hfit
    refine ⟨hne, hd, ?_⟩
    rw [← hn, Int64.ofInt_toInt]
  · rintro ⟨hne, hd, hn⟩
    rw [← hn, Int64.ofInt_toInt]
    exact ⟨⟨hne, hd, fitsInt64_iff.2 ⟨n, rfl⟩⟩, rfl⟩

theorem readInt64?_eq_none_iff {cs : List Char} :
    readInt64? cs = none ↔ ∀ n : Int64, ¬ IsDecimal cs n.toInt := by
  rw [Option.eq_none_iff_forall_ne_some]
  exact forall_congr' fun n => readInt64?_eq_some_iff.not

end MarketQuery.Number
