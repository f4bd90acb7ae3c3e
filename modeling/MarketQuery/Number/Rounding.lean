/-!
# Rounding a quotient

* `roundHalfEven`: the whole number nearest to a quotient, of two equally near ones the even one;
* `two_mul_roundHalfEven_mul_le`, `le_two_mul_roundHalfEven_mul`: it lies within half a unit.
-/

namespace MarketQuery.Number

/-- The whole number nearest to `a / b`, a half going to the even neighbour. -/
def roundHalfEven (a b : Nat) : Nat :=
  let q := a / b
  let twice := 2 * (a % b)
  if twice < b then q
  else if b < twice then q + 1
  else if q % 2 = 0 then q
  else q + 1

theorem two_mul_roundHalfEven_mul_le (a b : Nat) (hb : 0 < b) :
    2 * (roundHalfEven a b * b) ≤ 2 * a + b := by
  have hd := Nat.div_add_mod a b
  have hm := Nat.mod_lt a hb
  have hs : (a / b + 1) * b = b * (a / b) + b := by rw [Nat.add_mul, Nat.one_mul, Nat.mul_comm]
  have hc : a / b * b = b * (a / b) := Nat.mul_comm ..
  simp only [roundHalfEven]
  split
  · omega
  · split
    · omega
    · split <;> omega

theorem le_two_mul_roundHalfEven_mul (a b : Nat) (hb : 0 < b) :
    2 * a ≤ 2 * (roundHalfEven a b * b) + b := by
  have hd := Nat.div_add_mod a b
  have hm := Nat.mod_lt a hb
  have hs : (a / b + 1) * b = b * (a / b) + b := by rw [Nat.add_mul, Nat.one_mul, Nat.mul_comm]
  have hc : a / b * b = b * (a / b) := Nat.mul_comm ..
  simp only [roundHalfEven]
  split
  · omega
  · split
    · omega
    · split <;> omega

end MarketQuery.Number
