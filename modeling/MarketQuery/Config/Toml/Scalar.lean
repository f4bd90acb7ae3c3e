import MarketQuery.Config.Item
import MarketQuery.Date
import MarketQuery.Number.Radix
import MarketQuery.Text.Split

/-!
# Bare values of TOML

A value without quotes and brackets is a run of letters, digits and a few signs.

* `readDigits?`: digits with underscores between them;
* `readInt?`, `readFloat?`: numbers;
* `readTime?`, `readMoment?`: times and dates, written anew;
* `Bare`, `ofBare?`: what a run stands for.
-/

namespace MarketQuery.Toml

open Config

/-! ## Numbers -/

/-- Digits with underscores between them, without the underscores. -/
def readDigits? (isDigit : Char → Bool) (cs : List Char) : Option (List Char) :=
  let pieces := Text.splitAt '_' cs
  if pieces.all fun piece => piece ≠ [] && piece.all isDigit then some pieces.flatten else none

/-- Decimal digits without needless zeros before them. -/
def readWhole? (cs : List Char) : Option (List Char) :=
  if cs.head? = some '0' ∧ cs ≠ ['0'] then none else readDigits? Char.isDigit cs

/-- An integer of 64 bits. -/
def toInt? (n : Int) : Option Item :=
  if Number.fitsInt64 n then some (.int (.ofInt n)) else none

/-- Digits to a base other than ten. -/
def readBased? (base : Nat) (cs : List Char) : Option Item := do
  let digits ← readDigits? Number.isHexDigit cs
  toInt? (← Number.valueToBase? base digits)

/-- An integer. -/
def readInt? : List Char → Option Item
  | '0' :: 'x' :: digits => readBased? 16 digits
  | '0' :: 'o' :: digits => readBased? 8 digits
  | '0' :: 'b' :: digits => readBased? 2 digits
  | cs => do
    let (negative, digits) := Number.readSign cs
    toInt? (Number.signedInt negative (Number.digitsValue (← readWhole? digits)))

/-- The exponent of a number; none is 0. -/
def readExponent? : List Char → Option Int
  | [] => some 0
  | _ :: rest => do
    let (negative, digits) := Number.readSign rest
    return Number.signedInt negative (Number.digitsValue (← readDigits? Char.isDigit digits))

/-- The character starts an exponent. -/
def isExponentMark (c : Char) : Bool := c = 'e' || c = 'E'

/-- Digits with a point or an exponent. -/
def readNumeral? (cs : List Char) : Option Number.Numeral := do
  let behind := cs.dropWhile fun c => !isExponentMark c
  let exponent ← readExponent? behind
  match Text.splitAt '.' (cs.takeWhile fun c => !isExponentMark c) with
  | [whole] =>
    if behind = [] then none else return { whole := ← readWhole? whole, fraction := [], exponent }
  | [whole, fraction] =>
    return {
      whole := ← readWhole? whole
      fraction := ← readDigits? Char.isDigit fraction
      exponent }
  | _ => none

/-- A number with a point or an exponent, or a word for one. -/
def readFloat? (cs : List Char) : Option Item := do
  let (negative, rest) := Number.readSign cs
  if rest = "inf".toList then return .float (.infinite negative)
  else if rest = "nan".toList then return .float .nan
  else
    let numeral ← readNumeral? rest
    let x := numeral.toBinary64 negative
    if x = .infinite false then none else return .float x

/-! ## Times -/

/-- A number of exactly so many digits, at most the given one. -/
def readField? (count limit : Nat) (cs : List Char) : Option (Nat × List Char) :=
  let digits := cs.take count
  let n := Number.digitsValue digits
  if digits.length = count ∧ digits.all Char.isDigit ∧ n ≤ limit then some (n, cs.drop count)
  else none

/-- A sign that has to stand there. -/
def readMark? (mark : Char) : List Char → Option (List Char)
  | c :: rest => if c = mark then some rest else none
  | [] => none

/-- The fraction of a second, written anew to nine digits without zeros at the end. -/
def readSecondFraction? : List Char → Option (List Char × List Char)
  | '.' :: rest =>
    match Number.spanDigits rest with
    | ([], _) => none
    | (digits, rest) =>
      let kept := ((digits.take 9).reverse.dropWhile (· = '0')).reverse
      some (if kept = [] then [] else '.' :: kept, rest)
  | rest => some ([], rest)

/-- A time of day, written anew. Only if it is read loosely its hour may be 24. -/
def readTime? (strict : Bool) (cs : List Char) : Option (List Char × List Char) := do
  let (hour, cs) ← readField? 2 (if strict then 23 else 24) cs
  let cs ← readMark? ':' cs
  let (minute, cs) ← readField? 2 59 cs
  let cs ← readMark? ':' cs
  let (second, cs) ← readField? 2 60 cs
  let (fraction, cs) ← readSecondFraction? cs
  let two (n : Nat) := Date.padded 2 n
  return (two hour ++ ':' :: two minute ++ ':' :: two second ++ fraction, cs)

/-- The greatest offset from universal time, in minutes. -/
def maxOffset : Nat := 1440

/-- An offset from universal time, written anew. Only if it is read loosely it may have a whole day
or more than 59 minutes beside its hours. -/
def readOffset? (strict : Bool) : List Char → Option (List Char)
  | [] => some []
  | sign :: rest =>
    if sign = 'Z' ∨ sign = 'z' then if rest = [] then some ['Z'] else none
    else if sign = '+' ∨ sign = '-' then do
      let (hour, rest) ← readField? 2 (if strict then 23 else 99) rest
      let rest ← readMark? ':' rest
      let (minute, rest) ← readField? 2 (if strict then 59 else 99) rest
      let offset := 60 * hour + minute
      guard (rest = [] ∧ offset ≤ maxOffset)
      let sign := if offset = 0 then '+' else sign
      return sign :: Date.padded 2 (offset / 60) ++ ':' :: Date.padded 2 (offset % 60)
    else none

/-- A date, written anew. -/
def readDay? (cs : List Char) : Option (List Char × List Char) := do
  let (year, cs) ← readField? 4 9999 cs
  let cs ← readMark? '-' cs
  let (month, cs) ← readField? 2 12 cs
  let cs ← readMark? '-' cs
  let (day, cs) ← readField? 2 31 cs
  guard (1 ≤ day ∧ day ≤ monthLength year month)
  return (Date.padded 4 year ++ '-' :: Date.padded 2 month ++ '-' :: Date.padded 2 day, cs)

/-- What may stand between a date and a time. -/
def isTimeMark (c : Char) : Bool := c = 'T' || c = 't' || c = ' '

/-- A date, a time or both, written anew. -/
def readMoment? (strict : Bool) (cs : List Char) : Option (List Char) :=
  match readDay? cs with
  | some (day, []) => some day
  | some (day, mark :: rest) =>
    if isTimeMark mark then do
      let (time, rest) ← readTime? strict rest
      return day ++ 'T' :: time ++ (← readOffset? strict rest)
    else none
  | none => do
    let (time, rest) ← readTime? strict cs
    if rest = [] then some time else none

/-! ## Bare values -/

/-- A character of a bare value. -/
def isBare (c : Char) : Bool := c.isAlphanum || c ∈ ['_', '+', '-', '.', ':']

/-- A bare value at the start. A date may go on behind a blank with a time. -/
def spanBare (cs : List Char) : List Char × List Char :=
  let run := cs.takeWhile isBare
  match cs.dropWhile isBare with
  | ' ' :: rest =>
    let next := rest.takeWhile isBare
    if (readDay? run).any (·.2 = []) ∧ (readTime? true next).isSome then
      (run ++ ' ' :: next, rest.dropWhile isBare)
    else (run, ' ' :: rest)
  | rest => (run, rest)

/-- What a bare value stands for. -/
inductive Bare
  | item (item : Item)
  /-- A date, a time or both. -/
  | moment (text : String)

/-- What a bare value stands for. -/
def ofBare? (cs : List Char) : Option Bare :=
  if cs = "true".toList then some (.item (.bool true))
  else if cs = "false".toList then some (.item (.bool false))
  else
    (readInt? cs <|> readFloat? cs).map .item <|>
      (readMoment? true cs).map (.moment ∘ String.ofList)

end MarketQuery.Toml
