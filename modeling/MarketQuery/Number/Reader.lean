import MarketQuery.Number.Binary64

/-!
# Numbers read from text

* `spanDigits`: the decimal digits at the start of a text and the rest; `digitsValue`: their value;
* `readSign`: an optional sign;
* `readInt64?`: an optional sign and digits, within 64 bits;
* `Numeral`: digits with at most one point and an optional exponent; `Numeral.read?`;
* `readBinary64?`: an optional sign before a numeral or one of the words `inf`, `infinity`, `nan`.
-/

namespace MarketQuery.Number

/-- The decimal digits at the start, and the rest. -/
def spanDigits (cs : List Char) : List Char × List Char :=
  (cs.takeWhile Char.isDigit, cs.dropWhile Char.isDigit)

/-- The value of decimal digits. -/
def digitsValue (digits : List Char) : Nat :=
  digits.foldl (fun n c => 10 * n + (c.toNat - '0'.toNat)) 0

/-- An optional sign, minus giving `true`, and the rest. -/
def readSign : List Char → Bool × List Char
  | '-' :: rest => (true, rest)
  | '+' :: rest => (false, rest)
  | rest => (false, rest)

/-- A natural number with a sign. -/
def signedInt (negative : Bool) (n : Nat) : Int := if negative then -(n : Int) else n

/-- The integer fits 64 bits with a sign. -/
def fitsInt64 (n : Int) : Bool := -9223372036854775808 ≤ n && n < 9223372036854775808

/-- The natural number fits 64 bits without a sign. -/
def fitsNat64 (n : Nat) : Bool := n < 18446744073709551616

/-- An optional sign and one or more digits, within 64 bits. -/
def readInt64? (cs : List Char) : Option Int64 :=
  let (negative, digits) := readSign cs
  let n := signedInt negative (digitsValue digits)
  if digits ≠ [] ∧ digits.all Char.isDigit ∧ fitsInt64 n then some (.ofInt n) else none

/-- Digits before and after a point, and the power of ten written behind them. -/
structure Numeral where
  whole : List Char
  fraction : List Char
  exponent : Int
  deriving DecidableEq, Repr

namespace Numeral

/-- The exponent behind a numeral: nothing, or `e` with an optional sign and digits. -/
def readExponent? : List Char → Option Int
  | [] => some 0
  | e :: rest =>
    let (negative, digits) := readSign rest
    if (e = 'e' ∨ e = 'E') ∧ digits ≠ [] ∧ digits.all Char.isDigit then
      some (signedInt negative (digitsValue digits))
    else none

/-- The digits behind a point, if there is one, and the rest. -/
def readFraction : List Char → List Char × List Char
  | '.' :: rest => spanDigits rest
  | rest => ([], rest)

/-- A numeral that takes up a whole text: at least one digit before or after the point. -/
def read? (cs : List Char) : Option Numeral :=
  let (whole, rest) := spanDigits cs
  let (fraction, rest) := readFraction rest
  if whole = [] ∧ fraction = [] then none
  else (readExponent? rest).map fun exponent => { whole, fraction, exponent }

/-- The number nearest to a numeral, with a sign. -/
def toBinary64 (negative : Bool) (n : Numeral) : Binary64 :=
  .ofDecimal negative (digitsValue (n.whole ++ n.fraction)) (n.exponent - n.fraction.length)

end Numeral

/-- One of the words for a number without digits, in any letter case. -/
def readWord? (negative : Bool) (cs : List Char) : Option Binary64 :=
  let word := cs.map Char.toLower
  if word = "inf".toList ∨ word = "infinity".toList then some (.infinite negative)
  else if word = "nan".toList then some .nan
  else none

/-- An optional sign before a numeral or a word. -/
def readBinary64? (cs : List Char) : Option Binary64 :=
  let (negative, rest) := readSign cs
  match readWord? negative rest with
  | some x => some x
  | none => (Numeral.read? rest).map (Numeral.toBinary64 negative)

end MarketQuery.Number
