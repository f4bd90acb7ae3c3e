import MarketQuery.Number.Shortest

/-!
# Written numbers

How a number is written is a matter of a few decisions, kept in a record: which powers of ten are
written with a point in place, whether a whole number keeps a zero behind the point, whether the
exponent carries a plus sign, and where equally near decimals go.

* `Style`: the decisions; `Style.plain`, `Style.source`, `Style.scientific`, `Style.json`: those in
  use;
* `write`: a number in a style;
* `fixed`: a number with a given count of places, the exact size being rounded half to even.
-/

namespace MarketQuery.Number

/-- The decisions of a number format. -/
structure Style where
  /-- The power of ten of the first digit allows a point in place. -/
  inPlace : Int → Bool
  /-- A whole number with its point in place is written with one zero behind it. -/
  keepsPoint : Bool
  /-- An exponent that is not negative has a plus sign. -/
  plusSign : Bool
  /-- Where equally near decimals go. -/
  tie : Tie

namespace Style

/-- Always with the point in place, and without it for a whole number. -/
def plain : Style := ⟨fun _ => true, false, false, .up⟩

/-- With the point in place from `10 ^ (-4)` up to `10 ^ 16`, and always with a point or an
exponent. -/
def source : Style := ⟨fun p => -4 ≤ p && p < 16, true, false, .up⟩

/-- Always with an exponent. -/
def scientific : Style := ⟨fun _ => false, false, false, .up⟩

/-- With the point in place from `10 ^ (-5)` up to `10 ^ 16`, else with a signed exponent. -/
def json : Style := ⟨fun p => -5 ≤ p && p < 16, true, true, .toEven⟩

end Style

/-- The decimal digits of a natural number. -/
def digitsOf (n : Nat) : List Char := Nat.toDigits 10 n

/-- A natural number. -/
def natText (n : Nat) : String := .ofList (digitsOf n)

/-- Digits with the point `places` digits before their end. -/
def pointed (places : Nat) (digits : List Char) : List Char :=
  let padded := List.replicate (places + 1 - digits.length) '0' ++ digits
  let whole := padded.take (padded.length - places)
  if places = 0 then whole else whole ++ '.' :: padded.drop (padded.length - places)

/-- A decimal with its point in place. -/
def inPlace (keepsPoint : Bool) (d : Decimal) : List Char :=
  if 0 ≤ d.exponent then
    digitsOf (d.digits * Nat.pow 10 d.exponent.toNat) ++ if keepsPoint then ['.', '0'] else []
  else pointed (-d.exponent).toNat (digitsOf d.digits)

/-- An integer. -/
def ofInt (plusSign : Bool) (n : Int) : List Char :=
  (if n < 0 then ['-'] else if plusSign then ['+'] else []) ++ digitsOf n.natAbs

/-- A decimal with one digit before the point and an exponent. -/
def withExponent (plusSign : Bool) (d : Decimal) : List Char :=
  let digits := digitsOf d.digits
  pointed (digits.length - 1) digits ++ 'e' :: ofInt plusSign (d.exponent + (digits.length - 1))

/-- The power of ten of a decimal's first digit. -/
def leadingPower (d : Decimal) : Int := d.exponent + ((digitsOf d.digits).length - 1)

namespace Style

/-- A decimal in a style. Zero has its point in place whenever the style allows that at all. -/
def writeDecimal (style : Style) (d : Decimal) : List Char :=
  if style.inPlace (leadingPower d) then MarketQuery.Number.inPlace style.keepsPoint d
  else withExponent style.plusSign d

end Style

/-- A sign before digits. -/
def signed (negative : Bool) (digits : List Char) : List Char :=
  if negative then '-' :: digits else digits

/-- The decimal that stands for a code: zero, or the shortest that is read as the code. -/
def decimalOf (tie : Tie) (code : Nat) : Decimal :=
  if code = 0 then ⟨0, 0⟩ else shortest tie code

/-- The texts of the numbers without digits. -/
def nanText : String := "NaN"

/-- The texts of the infinite numbers. -/
def infiniteText (negative : Bool) : String := if negative then "-inf" else "inf"

/-- A number in a style. -/
def write (style : Style) : Binary64 → String
  | .nan => nanText
  | .infinite negative => infiniteText negative
  | .finite negative code =>
    .ofList (signed negative (style.writeDecimal (decimalOf style.tie code.val)))

/-- The exact size of a code, in units of `10 ^ (-places)`, rounded half to even. -/
def inPlaces (places : Nat) (code : Nat) : Nat :=
  roundHalfEven (Binary64.units code * Nat.pow 10 places) Binary64.one

/-- A number with a given count of places. -/
def fixed (places : Nat) : Binary64 → String
  | .nan => nanText
  | .infinite negative => infiniteText negative
  | .finite negative code =>
    .ofList (signed negative (pointed places (digitsOf (inPlaces places code.val))))

end MarketQuery.Number
