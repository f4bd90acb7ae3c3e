import Mathlib.Data.List.Basic
import MarketQuery.Number.Notation

/-!
# The characters of written numbers

* `IsNumeric`: digits, signs, the point and the letter of an exponent;
* `isNumeric_of_mem_ofInt`, `isNumeric_of_mem_write`, `isNumeric_of_mem_fixed`: integers and finite
  numbers are written with these alone, whatever the style or the count of places.
-/

namespace MarketQuery.Number

/-- A digit, a sign, the point or the letter of an exponent. -/
def IsNumeric (c : Char) : Prop := c.isDigit = true ∨ c ∈ ['+', '-', '.', 'e']

theorem isNumeric_of_mem_digitsOf {c : Char} {n : Nat} (h : c ∈ digitsOf n) : IsNumeric c :=
  .inl (Nat.isDigit_of_mem_toDigits (by decide) (by decide) h)

theorem isNumeric_of_mem_pointed {c : Char} {places : Nat} {digits : List Char}
    (hd : ∀ c ∈ digits, IsNumeric c) (h : c ∈ pointed places digits) : IsNumeric c := by
  have hpadded : ∀ c ∈ List.replicate (places + 1 - digits.length) '0' ++ digits, IsNumeric c := by
    intro c hc
    rcases List.mem_append.1 hc with hc | hc
    · exact (List.mem_replicate.1 hc).2 ▸ .inl (by decide)
    · exact hd c hc
  simp only [pointed] at h
  split at h
  · exact hpadded c (List.mem_of_mem_take h)
  · rcases List.mem_append.1 h with h | h
    · exact hpadded c (List.mem_of_mem_take h)
    · rcases List.mem_cons.1 h with rfl | h
      · exact .inr (by decide)
      · exact hpadded c (List.mem_of_mem_drop h)

theorem isNumeric_of_mem_inPlace {c : Char} {keepsPoint : Bool} {d : Decimal}
    (h : c ∈ inPlace keepsPoint d) : IsNumeric c := by
  simp only [inPlace] at h
  split at h
  · rcases List.mem_append.1 h with h | h
    · exact isNumeric_of_mem_digitsOf h
    · split at h
      · rcases List.mem_pair.1 h with rfl | rfl
        · exact .inr (by decide)
        · exact .inl (by decide)
      · cases h
  · exact isNumeric_of_mem_pointed (fun _ => isNumeric_of_mem_digitsOf) h

theorem isNumeric_of_mem_ofInt {c : Char} {plusSign : Bool} {n : Int} (h : c ∈ ofInt plusSign n) :
    IsNumeric c := by
  simp only [ofInt] at h
  rcases List.mem_append.1 h with h | h
  · split at h
    · obtain rfl := List.mem_singleton.1 h
      exact .inr (by decide)
    · split at h
      · obtain rfl := List.mem_singleton.1 h
        exact .inr (by decide)
      · cases h
  · exact isNumeric_of_mem_digitsOf h

theorem isNumeric_of_mem_withExponent {c : Char} {plusSign : Bool} {d : Decimal}
    (h : c ∈ withExponent plusSign d) : IsNumeric c := by
  simp only [withExponent] at h
  rcases List.mem_append.1 h with h | h
  · exact isNumeric_of_mem_pointed (fun _ => isNumeric_of_mem_digitsOf) h
  · rcases List.mem_cons.1 h with rfl | h
    · exact .inr (by decide)
    · exact isNumeric_of_mem_ofInt h

theorem isNumeric_of_mem_write {c : Char} {style : Style} {negative : Bool}
    {code : Fin Binary64.codeBound} (h : c ∈ (write style (.finite negative code)).toList) :
    IsNumeric c := by
  have hdecimal : ∀ c ∈ style.writeDecimal (decimalOf style.tie code.val), IsNumeric c := by
    intro c hc
    simp only [Style.writeDecimal] at hc
    split at hc
    · exact isNumeric_of_mem_inPlace hc
    · exact isNumeric_of_mem_withExponent hc
  simp only [write, String.toList_ofList, signed] at h
  split at h
  · rcases List.mem_cons.1 h with rfl | h
    · exact .inr (by decide)
    · exact hdecimal c h
  · exact hdecimal c h

theorem isNumeric_of_mem_fixed {c : Char} {places : Nat} {negative : Bool}
    {code : Fin Binary64.codeBound} (h : c ∈ (fixed places (.finite negative code)).toList) :
    IsNumeric c := by
  simp only [fixed, String.toList_ofList, signed] at h
  split at h
  · rcases List.mem_cons.1 h with rfl | h
    · exact .inr (by decide)
    · exact isNumeric_of_mem_pointed (fun _ => isNumeric_of_mem_digitsOf) h
  · exact isNumeric_of_mem_pointed (fun _ => isNumeric_of_mem_digitsOf) h

end MarketQuery.Number
