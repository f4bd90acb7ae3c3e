/-!
# Digits to a base

* `hexDigit?`: the value of a hexadecimal digit;
* `valueToBase?`: the value of digits to a base up to sixteen;
* `hexChar?`: the character whose code point hexadecimal digits give.
-/

namespace MarketQuery.Number

/-- The value of a hexadecimal digit. -/
def hexDigit? (c : Char) : Option Nat :=
  if c.isDigit then some (c.toNat - '0'.toNat)
  else if 'a' ≤ c ∧ c ≤ 'f' then some (c.toNat - 'a'.toNat + 10)
  else if 'A' ≤ c ∧ c ≤ 'F' then some (c.toNat - 'A'.toNat + 10)
  else none

/-- The character is a hexadecimal digit. -/
def isHexDigit (c : Char) : Bool := (hexDigit? c).isSome

/-- The value of digits to a base up to sixteen. -/
def valueToBase? (base : Nat) (digits : List Char) : Option Nat := do
  let values ← digits.mapM hexDigit?
  if values.all (· < base) then some (values.foldl (fun n d => base * n + d) 0) else none

/-- The character of a code point, if it is one. -/
def charOf? (n : Nat) : Option Char := if n.isValidChar then some (.ofNat n) else none

/-- The character whose code point hexadecimal digits give. -/
def hexChar? (digits : List Char) : Option Char := (valueToBase? 16 digits).bind charOf?

end MarketQuery.Number
