import MarketQuery.Number.Rounding

/-!
# Binary64 numbers

A number is one of the doubles of 64 bits. Its size is kept as a code: codes follow one another in
the order of the sizes they stand for, and the code plus the sign is the number's bit pattern.
Every size is a multiple of the least positive one, so exact arithmetic needs natural numbers only.

* `Binary64`: the numbers, with one `nan`;
* `one`: the units in one, a unit being `2 ^ (-1074)`; `units`: the size of a code in units;
* `ofRatio`: the number nearest to a quotient, ties to the even code;
* `ofInt`, `ofDecimal`: the number nearest to a whole number and to `digits * 10 ^ exponent`;
* `times`, `dividedBy`: the number nearest to a product and to a quotient of sizes.
-/

namespace MarketQuery

/-- The codes of the finite sizes lie below this bound. -/
abbrev Binary64.codeBound : Nat := 2047 * 4503599627370496

/-- A double of 64 bits. -/
inductive Binary64
  | nan
  | infinite (negative : Bool)
  | finite (negative : Bool) (code : Fin Binary64.codeBound)
  deriving DecidableEq, Repr

namespace Binary64

open Number

/-- How many units make one. -/
@[irreducible] def one : Nat := 1 <<< 1074

/-- How many codes there are from a power of two up to the next, `2 ^ 52`. -/
abbrev octave : Nat := 4503599627370496

/-- The binary exponent of a code, counted from that of the least sizes. -/
def scale (code : Nat) : Nat := code / octave - 1

/-- The size of a code, in units. -/
def units (code : Nat) : Nat := (code - scale code * octave) <<< scale code

/-- The code of the size nearest to `a / b` units; of two equally near, the even code. -/
def nearestCode (a b : Nat) : Nat :=
  let k := (a / b).log2 - 52
  k * octave + roundHalfEven a (b <<< k)

/-- The number of the given sign and code, infinite beyond the greatest finite size. -/
def ofCode (negative : Bool) (code : Nat) : Binary64 :=
  if h : code < codeBound then .finite negative ⟨code, h⟩ else .infinite negative

/-- The number nearest to `a / b`, with the given sign. -/
def ofRatio (negative : Bool) (a b : Nat) : Binary64 :=
  ofCode negative (nearestCode (a * one) b)

/-- The number zero. -/
def zero (negative : Bool) : Binary64 := .finite negative ⟨0, by decide⟩

/-- The number nearest to a whole number. -/
def ofInt (n : Int) : Binary64 := ofRatio (n < 0) n.natAbs 1

/-- The number nearest to `digits * 10 ^ exponent`. Far beyond the range of finite sizes the power
is not computed. -/
def ofDecimal (negative : Bool) (digits : Nat) (exponent : Int) : Binary64 :=
  if digits = 0 then zero negative
  else if 400 ≤ exponent then .infinite negative
  else if exponent + digits.log2 + 1 ≤ -400 then zero negative
  else ofRatio negative (digits * Nat.pow 10 exponent.toNat) (Nat.pow 10 (-exponent).toNat)

/-- The number of the same size with the given sign. -/
def withSign (negative : Bool) : Binary64 → Binary64
  | nan => nan
  | infinite _ => infinite negative
  | finite _ code => finite negative code

/-- The size of a finite number, in units. -/
def size : Binary64 → Nat
  | finite _ code => units code
  | _ => 0

/-- The number nearest to the product of two finite sizes. -/
def times (x y : Binary64) : Binary64 := ofRatio false (x.size * y.size) (one * one)

/-- The number nearest to the quotient of two finite sizes. -/
def dividedBy (x y : Binary64) : Binary64 := ofRatio false x.size y.size

def isNan : Binary64 → Bool
  | nan => true
  | _ => false

def isFinite : Binary64 → Bool
  | finite .. => true
  | _ => false

/-- The number is neither zero nor infinite nor `nan`. -/
def isNonzero : Binary64 → Bool
  | finite _ code => code.val ≠ 0
  | _ => false

/-- The natural number nearest to a number, halves going up; below zero 0, beyond `limit` the
limit. -/
def toNatClamped (limit : Nat) : Binary64 → Nat
  | nan => 0
  | infinite true => 0
  | infinite false => limit
  | finite true _ => 0
  | finite false code => min limit ((2 * units code + one) / (2 * one))

theorem units_zero : units 0 = 0 := rfl

end Binary64

end MarketQuery
