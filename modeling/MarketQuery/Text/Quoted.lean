import MarketQuery.Text.Extending
import MarketQuery.Text.Unprintable

/-!
# Quoted text

A quoted text stands between double quotes on one line. Quotes, backslashes and the common controls
are written with a backslash, every other character that a reader could not make out as its code
point in braces.

* `escape`: the written form of a character;
* `quote`: the written form of a text.
-/

namespace MarketQuery.Text

/-- The hexadecimal digits of a number, in small letters. -/
def hexadecimal (n : Nat) : List Char := Nat.toDigits 16 n

/-- The written form of a character between quotes. -/
def escape (c : Char) : List Char :=
  if c = '"' then ['\\', '"']
  else if c = '\\' then ['\\', '\\']
  else if c = '\n' then ['\\', 'n']
  else if c = '\r' then ['\\', 'r']
  else if c = '\t' then ['\\', 't']
  else if c.toNat = 0 then ['\\', '0']
  else if isExtending c || isUnprintable c then
    ['\\', 'u', '\x7b'] ++ hexadecimal c.toNat ++ ['\x7d']
  else [c]

/-- The written form of a text. -/
def quote (s : String) : String :=
  .ofList ('"' :: s.toList.flatMap escape ++ ['"'])

end MarketQuery.Text
