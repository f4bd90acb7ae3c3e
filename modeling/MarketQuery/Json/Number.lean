import MarketQuery.Json.Token
import MarketQuery.Number.Notation

/-!
# JSON numbers

An integer that 64 bits hold stays one. Any other number is computed from the digits at its start
that 64 bits hold, by products and quotients of doubles, each of them rounded.

* `Number`: an integer of 64 bits, with or without a sign, or else a double;
* `takeFitting`: the digits that 64 bits hold;
* `scaled?`: a double times a power of ten;
* `Number.ofToken?`: the number of a token; none beyond the greatest finite one.
-/

namespace MarketQuery.Json

/-- A number that is kept. -/
inductive Number
  | integer (n : Int)
  | float (x : Binary64)
  deriving DecidableEq, Repr

namespace Number

/-- The digits of a value behind another value, as long as 64 bits hold it, and the digits left. -/
def takeFitting (value : Nat) : List Char → Nat × List Char
  | [] => (value, [])
  | c :: rest =>
    let next := 10 * value + (c.toNat - '0'.toNat)
    if Number.fitsNat64 next then takeFitting next rest else (value, c :: rest)

/-- The digits of a numeral that 64 bits hold, and the power of ten for what is left of it. Digits
of the fraction are taken also behind whole digits that are left. -/
def significand (n : Number.Numeral) : Nat × Int :=
  let (value, wholeLeft) := takeFitting 0 n.whole
  let (value, fractionLeft) := takeFitting value n.fraction
  (value, wholeLeft.length - (n.fraction.length - fractionLeft.length) + n.exponent)

/-- The power of ten with the greatest finite exponent. -/
def maxPower : Nat := 308

/-- The power of ten with the given exponent. -/
def powerOfTen (exponent : Nat) : Binary64 := .ofDecimal false 1 exponent

/-- A double times a power of ten, if it is finite. -/
def scaled? (x : Binary64) (exponent : Int) : Option Binary64 :=
  if !x.isNonzero then some x
  else if 0 ≤ exponent then
    if exponent ≤ maxPower then
      let y := x.times (powerOfTen exponent.toNat)
      if y.isFinite then some y else none
    else none
  else if -maxPower ≤ exponent then some (x.dividedBy (powerOfTen (-exponent).toNat))
  else scaled? (x.dividedBy (powerOfTen maxPower)) (exponent + maxPower)
termination_by (-exponent).toNat
decreasing_by simp only [maxPower] at *; omega

/-- The double of a numeral. -/
def float? (negative : Bool) (n : Number.Numeral) : Option Binary64 :=
  let (value, exponent) := significand n
  (scaled? (.ofInt value) exponent).map (·.withSign negative)

/-- The number that a token stands for. -/
def ofToken? (t : NumberToken) : Option Number :=
  let n := Number.digitsValue t.numeral.whole
  if t.isInteger && !t.negative && Number.fitsNat64 n then some (integer n)
  else if t.isInteger && t.negative && 0 < n && Number.fitsInt64 (-n) then some (integer (-n))
  else (float? t.negative t.numeral).map float

/-- A number as text. -/
def display : Number → String
  | integer n => .ofList (Number.ofInt false n)
  | float x => Number.write .json x

end Number

end MarketQuery.Json
