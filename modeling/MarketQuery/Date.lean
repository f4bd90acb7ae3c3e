import MarketQuery.Number.Notation
import MarketQuery.Number.Reader
import MarketQuery.Text.Blank

/-!
# Dates

* `Date`: a day of the Gregorian calendar, carried on before its adoption;
* `monthLength`: the days of a month;
* `Date.read?`: a date written as `20240101` or as `2024-01-01`;
* `Date.compact`: a date written without dashes.
-/

namespace MarketQuery

/-- A leap year: every fourth year, of the full hundreds every fourth. -/
def isLeapYear (year : Int) : Bool := year % 4 = 0 && (year % 100 ≠ 0 || year % 400 = 0)

/-- The days of a month of a year; other numbers name no month. -/
def monthLength (year : Int) (month : Nat) : Nat :=
  match month with
  | 1 | 3 | 5 | 7 | 8 | 10 | 12 => 31
  | 4 | 6 | 9 | 11 => 30
  | 2 => if isLeapYear year then 29 else 28
  | _ => 0

/-- A day by its year, month and day of the month. -/
structure Date where
  year : Int
  month : Nat
  day : Nat
  deriving DecidableEq, Repr

namespace Date

/-- The first year that can be reckoned with. -/
def minYear : Int := -262143

/-- The last year that can be reckoned with. -/
def maxYear : Int := 262142

/-- The day exists, in a year that can be reckoned with. -/
def Exists (d : Date) : Prop :=
  minYear ≤ d.year ∧ d.year ≤ maxYear ∧ 1 ≤ d.day ∧ d.day ≤ monthLength d.year d.month

instance (d : Date) : Decidable d.Exists := by unfold Exists; infer_instance

/-! ## Reading -/

/-- One to `limit` digits at the start, as many as there are. -/
def readDigits? (limit : Nat) (cs : List Char) : Option (Nat × List Char) :=
  match (cs.take limit).takeWhile Char.isDigit with
  | [] => none
  | digits => some (Number.digitsValue digits, cs.drop digits.length)

/-- A number of at most `limit` digits, with blanks before it. -/
def readPart? (limit : Nat) (cs : List Char) : Option (Nat × List Char) :=
  readDigits? limit (cs.dropWhile Text.isBlank)

/-- A year: up to four digits, or a sign and any number of digits. -/
def readYear? (cs : List Char) : Option (Int × List Char) :=
  match cs.dropWhile Text.isBlank with
  | '-' :: rest => (readDigits? rest.length rest).map fun (n, rest) => (-(n : Int), rest)
  | '+' :: rest => (readDigits? rest.length rest).map fun (n, rest) => (n, rest)
  | rest => (readDigits? 4 rest).map fun (n, rest) => (n, rest)

/-- What stands between the numbers of a date. -/
def readSeparator? (separator : List Char) (cs : List Char) : Option (List Char) :=
  if separator.isPrefixOf cs then some (cs.drop separator.length) else none

/-- A date that takes up a whole text, with the given separator. -/
def readWith? (separator : List Char) (cs : List Char) : Option Date := do
  let (year, cs) ← readYear? cs
  let cs ← readSeparator? separator cs
  let (month, cs) ← readPart? 2 cs
  let cs ← readSeparator? separator cs
  let (day, cs) ← readPart? 2 cs
  guard (cs = [] ∧ Exists ⟨year, month, day⟩)
  return ⟨year, month, day⟩

/-- A date, written with dashes or without. -/
def read? (cs : List Char) : Option Date := readWith? [] cs <|> readWith? ['-'] cs

/-! ## Writing -/

/-- A number with zeros before it up to a count of digits. -/
def padded (count n : Nat) : List Char :=
  let digits := Number.digitsOf n
  List.replicate (count - digits.length) '0' ++ digits

/-- The sign of a year that four digits do not hold. -/
def yearSign (year : Int) : List Char :=
  if year < 0 then ['-'] else if year < 10000 then [] else ['+']

/-- A date without dashes. -/
def compact (d : Date) : String :=
  .ofList (yearSign d.year ++ padded 4 d.year.natAbs ++ padded 2 d.month ++ padded 2 d.day)

end Date

end MarketQuery
