import MarketQuery.Number.Radix
import MarketQuery.Number.Reader

/-!
# The tokens of JSON

Each reader takes a token from the start of a text and gives what is left.

* `skipSpace`: blanks between tokens;
* `NumberToken`, `readNumber?`: a number as it is written;
* `readText?`: the rest of a string behind its opening quote, as code units, so that a string may be
  well formed although it holds half of a surrogate pair;
* `textOf?`: the text of code units, if no half stands alone.
-/

namespace MarketQuery.Json

/-- A blank between tokens. -/
def isSpace (c : Char) : Bool := c = ' ' || c = '\n' || c = '\t' || c = '\r'

def skipSpace (cs : List Char) : List Char := cs.dropWhile isSpace

/-! ## Numbers -/

/-- A number as it is written. -/
structure NumberToken where
  negative : Bool
  numeral : Number.Numeral
  /-- It has neither a point nor an exponent. -/
  isInteger : Bool
  deriving DecidableEq, Repr

open Number

/-- The digits before a point: a zero stands alone. -/
def readWhole? (cs : List Char) : Option (List Char × List Char) :=
  match spanDigits cs with
  | ([], _) => none
  | (['0'], rest) => some (['0'], rest)
  | ('0' :: _, _) => none
  | (digits, rest) => some (digits, rest)

/-- A point with digits behind it, or nothing. -/
def readFraction? : List Char → Option (List Char × List Char)
  | '.' :: rest =>
    match spanDigits rest with
    | ([], _) => none
    | (digits, rest) => some (digits, rest)
  | rest => some ([], rest)

/-- An exponent, or nothing. -/
def readExponent? : List Char → Option (Option Int × List Char)
  | e :: rest =>
    if e = 'e' ∨ e = 'E' then
      let (negative, rest) := readSign rest
      match spanDigits rest with
      | ([], _) => none
      | (digits, rest) => some (some (signedInt negative (digitsValue digits)), rest)
    else some (none, e :: rest)
  | [] => some (none, [])

/-- A number at the start of a text. -/
def readNumber? (cs : List Char) : Option (NumberToken × List Char) := do
  let (negative, cs) := match cs with
    | '-' :: rest => (true, rest)
    | _ => (false, cs)
  let (whole, cs) ← readWhole? cs
  let (fraction, cs) ← readFraction? cs
  let (exponent, cs) ← readExponent? cs
  let numeral := { whole, fraction, exponent := exponent.getD 0 }
  return ({ negative, numeral, isInteger := fraction = [] && exponent.isNone }, cs)

/-! ## Strings -/

/-- The value of four hexadecimal digits. -/
def hexUnit? (a b c d : Char) : Option Nat := valueToBase? 16 [a, b, c, d]

/-- The character that a letter behind a backslash stands for. -/
def escaped? : Char → Option Char
  | '"' => some '"'
  | '\\' => some '\\'
  | '/' => some '/'
  | 'b' => some '\x08'
  | 'f' => some '\x0c'
  | 'n' => some '\n'
  | 'r' => some '\r'
  | 't' => some '\t'
  | _ => none

/-- The rest of a string behind its opening quote, and what is left behind the closing one. -/
def readText? : List Char → Option (List Nat × List Char)
  | '"' :: rest => some ([], rest)
  | '\\' :: 'u' :: a :: b :: c :: d :: rest => do
    let unit ← hexUnit? a b c d
    let (units, rest) ← readText? rest
    return (unit :: units, rest)
  | '\\' :: e :: rest => do
    let c ← escaped? e
    let (units, rest) ← readText? rest
    return (c.toNat :: units, rest)
  | c :: rest => do
    guard (0x20 ≤ c.toNat ∧ c ≠ '\\')
    let (units, rest) ← readText? rest
    return (c.toNat :: units, rest)
  | [] => none

/-- The first half of a surrogate pair. -/
def isHigh (unit : Nat) : Bool := 0xD800 ≤ unit && unit ≤ 0xDBFF

/-- The second half of a surrogate pair. -/
def isLow (unit : Nat) : Bool := 0xDC00 ≤ unit && unit ≤ 0xDFFF

/-- The characters of code units, if no half of a pair stands alone. -/
def charsOf? : List Nat → Option (List Char)
  | [] => some []
  | high :: low :: rest =>
    if isHigh high then
      if isLow low then
        (charsOf? rest).map (.ofNat (0x10000 + (high - 0xD800) * 0x400 + (low - 0xDC00)) :: ·)
      else none
    else if isLow high then none
    else (charsOf? (low :: rest)).map (.ofNat high :: ·)
  | [unit] => if isHigh unit || isLow unit then none else some [.ofNat unit]

/-- The text of code units, if no half of a pair stands alone. -/
def textOf? (units : List Nat) : Option String := (charsOf? units).map .ofList

end MarketQuery.Json
