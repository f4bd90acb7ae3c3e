import MarketQuery.Config.Item
import MarketQuery.Json.Token
import MarketQuery.Text.Alphanumeric
import MarketQuery.Text.Extending

/-!
# JSON5

JSON with comments, commas behind the last element, names without quotes and more ways to write
strings and numbers.

* `skipGap?`: blanks and comments;
* `readString?`, `readName?`, `readNumber?`: the tokens;
* `readValue?`: a value at the start of a text;
* `read?`: the item of a whole document.
-/

namespace MarketQuery.Json5

open Config Text

/-! ## Blanks and comments -/

/-- A character that ends a line. -/
def isLineEnd (c : Char) : Bool := c = '\n' || c = '\r' || c = '\u2028' || c = '\u2029'

/-- A blank between tokens. -/
def isGap (c : Char) : Bool :=
  isLineEnd c || c = '\t' || c = '\x0b' || c = '\x0c' || c = '\ufeff' ||
    Ranges.contains [(0x20, 0x20), (0xA0, 0xA0), (0x1680, 0x1680), (0x2000, 0x200A),
      (0x202F, 0x202F), (0x205F, 0x205F), (0x3000, 0x3000)] c

/-- What is left behind the end of a comment. -/
def skipComment? : List Char → Option (List Char)
  | '*' :: '/' :: rest => some rest
  | _ :: rest => skipComment? rest
  | [] => none

/-- Blanks and comments, dropped. The first argument bounds the steps. -/
def skipGap? : Nat → List Char → Option (List Char)
  | 0, _ => none
  | fuel + 1, cs =>
    match cs.dropWhile isGap with
    | '/' :: '*' :: rest => (skipComment? rest).bind (skipGap? fuel)
    | '/' :: '/' :: rest => skipGap? fuel (rest.dropWhile fun c => !isLineEnd c)
    | rest => some rest

/-! ## Strings and names -/

/-- The code units that the text behind a backslash stands for. -/
def readEscape? : List Char → Option (List Nat × List Char)
  | 'b' :: rest => some ([8], rest)
  | 'f' :: rest => some ([12], rest)
  | 'n' :: rest => some ([10], rest)
  | 'r' :: rest => some ([13], rest)
  | 't' :: rest => some ([9], rest)
  | 'v' :: rest => some ([11], rest)
  | '0' :: rest => some ([0], rest)
  | 'x' :: a :: b :: rest => (Number.valueToBase? 16 [a, b]).map fun unit => ([unit], rest)
  | 'u' :: a :: b :: c :: d :: rest => (Json.hexUnit? a b c d).map fun unit => ([unit], rest)
  | '\r' :: '\n' :: rest => some ([], rest)
  | c :: rest =>
    if c = 'x' ∨ c = 'u' ∨ c.isDigit then none
    else if isLineEnd c then some ([], rest)
    else some ([c.toNat], rest)
  | [] => none

/-- The rest of a string behind its opening quote. The first argument bounds the steps. -/
def readUnits? (quote : Char) : Nat → List Char → Option (List Nat × List Char)
  | 0, _ => none
  | _, [] => none
  | fuel + 1, c :: rest =>
    if c = quote then some ([], rest)
    else if isLineEnd c then none
    else do
      let (units, rest) ← if c = '\\' then readEscape? rest else some ([c.toNat], rest)
      let (more, rest) ← readUnits? quote fuel rest
      return (units ++ more, rest)

/-- The rest of a string behind its opening quote, if no half of a surrogate pair stands alone. -/
def readString? (quote : Char) (cs : List Char) : Option (String × List Char) := do
  let (units, rest) ← readUnits? quote (cs.length + 1) cs
  return (← Json.textOf? units, rest)

/-- A character that a name may start with. -/
def startsName (c : Char) : Bool := isAlphabetic c || c = '$' || c = '_'

/-- A character inside a name. -/
def isNameChar (c : Char) : Bool :=
  startsName c || isAlphanumeric c || isExtending c || c = '\u200c' || c = '\u200d' ||
    Ranges.contains [(0x203F, 0x2040), (0x2054, 0x2054), (0xFE33, 0xFE34), (0xFE4D, 0xFE4F),
      (0xFF3F, 0xFF3F)] c

/-- The rest of a name. The first argument bounds the steps. -/
def readNameUnits? : Nat → List Char → Option (List Nat × List Char)
  | fuel + 1, '\\' :: 'u' :: a :: b :: c :: d :: rest => do
    let unit ← Json.hexUnit? a b c d
    let (units, rest) ← readNameUnits? fuel rest
    return (unit :: units, rest)
  | fuel + 1, c :: rest =>
    if isNameChar c then
      (readNameUnits? fuel rest).map fun (units, rest) => (c.toNat :: units, rest)
    else some ([], c :: rest)
  | _, cs => some ([], cs)

/-- A name without quotes. -/
def readName? (cs : List Char) : Option (String × List Char) := do
  guard (cs.head?.any fun c => startsName c || c = '\\')
  let (units, rest) ← readNameUnits? cs.length cs
  guard (units ≠ [])
  return (← Json.textOf? units, rest)

/-! ## Numbers -/

/-- The greatest number with hexadecimal digits. -/
def maxHex : Nat := 4294967295

/-- A number with hexadecimal digits, behind its mark. -/
def readHex? (negative signed : Bool) (cs : List Char) : Option (Item × List Char) := do
  let digits := cs.takeWhile Number.isHexDigit
  let n ← Number.valueToBase? 16 digits
  guard (digits ≠ [] ∧ n ≤ maxHex ∧ !negative ∧ !signed)
  return (.int (.ofNat n), cs.dropWhile Number.isHexDigit)

/-- An exponent at the start of a text, if one is there. -/
def readExponent (cs : List Char) : Option Int × List Char :=
  match cs with
  | e :: rest =>
    let (negative, digits) := Number.readSign rest
    match e = 'e' || e = 'E', Number.spanDigits digits with
    | true, (d :: ds, rest) =>
      (some (Number.signedInt negative (Number.digitsValue (d :: ds))), rest)
    | _, _ => (none, cs)
  | [] => (none, [])

/-- A number with decimal digits: an integer of 64 bits, or else one that is finite. -/
def readDecimal? (negative : Bool) (cs : List Char) : Option (Item × List Char) := do
  let (whole, rest) := match cs with
    | '0' :: rest => (['0'], rest)
    | _ => Number.spanDigits cs
  let (point, fraction, rest) := match rest with
    | '.' :: rest => (true, Number.spanDigits rest)
    | _ => (false, [], rest)
  guard (whole ≠ [] ∨ fraction ≠ [])
  let (exponent?, rest) := readExponent rest
  if !point ∧ exponent?.isNone then
    let n := Number.signedInt negative (Number.digitsValue whole)
    guard (Number.fitsInt64 n)
    return (.int (.ofInt n), rest)
  else
    let numeral : Number.Numeral := { whole, fraction, exponent := exponent?.getD 0 }
    let x := numeral.toBinary64 negative
    guard x.isFinite
    return (.float x, rest)

/-- A word at the start of a text, dropped. -/
def dropWord? (word : String) (cs : List Char) : Option (List Char) :=
  if word.toList.isPrefixOf cs then some (cs.drop word.length) else none

/-- A number at the start of a text. -/
def readNumber? (cs : List Char) : Option (Item × List Char) :=
  let (negative, rest) := Number.readSign cs
  match dropWord? "Infinity" rest with
  | some rest => some (.float (.infinite negative), rest)
  | none =>
    match dropWord? "NaN" rest with
    | some rest => some (.float .nan, rest)
    | none =>
      match rest with
      | '0' :: x :: digit :: more =>
        if (x = 'x' ∨ x = 'X') ∧ Number.isHexDigit digit then
          readHex? negative (rest.length < cs.length) (digit :: more)
        else readDecimal? negative rest
      | _ => readDecimal? negative rest

/-! ## Values -/

/-- The name of a member. -/
def readKey? : List Char → Option (String × List Char)
  | '"' :: rest => readString? '"' rest
  | '\'' :: rest => readString? '\'' rest
  | cs => readName? cs

mutual

/-- A value at the start of a text. The first argument bounds the steps. -/
def readValue? : Nat → List Char → Option (Item × List Char)
  | 0, _ => none
  | fuel + 1, cs =>
    match cs with
    | 'n' :: rest => (dropWord? "ull" rest).map (.null, ·)
    | 't' :: rest => (dropWord? "rue" rest).map (.bool true, ·)
    | 'f' :: rest => (dropWord? "alse" rest).map (.bool false, ·)
    | '"' :: rest => (readString? '"' rest).map fun (s, rest) => (.text s, rest)
    | '\'' :: rest => (readString? '\'' rest).map fun (s, rest) => (.text s, rest)
    | '[' :: rest => (readItems? fuel rest).map fun (items, rest) => (.array items, rest)
    | '\x7b' :: rest => do
      let (members, rest) ← readMembers? fuel [] rest
      return (.table members, rest)
    | _ => readNumber? cs

/-- The items of an array and its closing bracket. -/
def readItems? : Nat → List Char → Option (List Item × List Char)
  | 0, _ => none
  | fuel + 1, cs => do
    match ← skipGap? (fuel + 1) cs with
    | ']' :: rest => return ([], rest)
    | cs =>
      let (item, rest) ← readValue? fuel cs
      match ← skipGap? (fuel + 1) rest with
      | ']' :: rest => return ([item], rest)
      | ',' :: rest =>
        let (items, rest) ← readItems? fuel rest
        return (item :: items, rest)
      | _ => none

/-- The members of an object over earlier ones, and its closing brace. -/
def readMembers? : Nat → Item.Members → List Char → Option (Item.Members × List Char)
  | 0, _, _ => none
  | fuel + 1, earlier, cs => do
    match ← skipGap? (fuel + 1) cs with
    | '\x7d' :: rest => return (earlier, rest)
    | cs =>
      let (name, rest) ← readKey? cs
      let ':' :: rest ← skipGap? (fuel + 1) rest | none
      let (item, rest) ← readValue? fuel (← skipGap? (fuel + 1) rest)
      let members := Item.put name item earlier
      match ← skipGap? (fuel + 1) rest with
      | '\x7d' :: rest => return (members, rest)
      | ',' :: rest => readMembers? fuel members rest
      | _ => none

end

/-- The item of a whole document. -/
def read? (s : String) : Option Item := do
  let cs := s.toList
  let fuel := cs.length + 1
  let (item, rest) ← readValue? fuel (← skipGap? fuel cs)
  guard ((← skipGap? fuel rest) = [])
  return item

end MarketQuery.Json5
