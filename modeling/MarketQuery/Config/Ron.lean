import MarketQuery.Config.Item
import MarketQuery.Number.Radix

/-!
# RON

Structures with named fields or without, lists, maps, strings, characters and numbers. The name of a
structure says nothing about its value.

* `skipGap?`: blanks and comments;
* `readName?`, `readString?`, `readChar?`, `readNumber?`: the tokens;
* `readAttributes?`: what may stand before the value of a document;
* `readValue?`: a value at the start of a text;
* `read?`: the item of a whole document.
-/

namespace MarketQuery.Ron

open Config Number

/-! ## Blanks and comments -/

def isGap (c : Char) : Bool := c = ' ' || c = '\t' || c = '\n' || c = '\r'

/-- What is left behind the end of a comment that stands inside `depth` others. -/
def skipComment? : (depth : Nat) → List Char → Option (List Char)
  | depth, '/' :: '*' :: rest => skipComment? (depth + 1) rest
  | 0, '*' :: '/' :: rest => some rest
  | depth + 1, '*' :: '/' :: rest => skipComment? depth rest
  | depth, _ :: rest => skipComment? depth rest
  | _, [] => none

/-- Blanks and comments, dropped. The first argument bounds the steps. -/
def skipGap? : Nat → List Char → Option (List Char)
  | 0, _ => none
  | fuel + 1, cs =>
    match cs.dropWhile isGap with
    | '/' :: '*' :: rest => (skipComment? 0 rest).bind (skipGap? fuel)
    | '/' :: '/' :: rest => skipGap? fuel (rest.dropWhile (· ≠ '\n'))
    | '/' :: _ => none
    | rest => some rest

/-- Blanks and comments, dropped. -/
def skipGaps? (cs : List Char) : Option (List Char) := skipGap? (cs.length + 1) cs

/-! ## Names -/

/-- A character that a name may start with. -/
def startsName (c : Char) : Bool := c.isAlpha || c = '_'

/-- A character of a name. -/
def isNameChar (c : Char) : Bool := c.isAlphanum || c = '_'

/-- A character of a name behind a mark. -/
def isMarkedNameChar (c : Char) : Bool := isNameChar c || c ∈ ['.', '+', '-']

/-- A name at the start of a text. With `r#` before it, it may hold more signs. -/
def readName? : List Char → Option (String × List Char)
  | 'r' :: '"' :: _ => none
  | 'r' :: '#' :: rest =>
    match rest.takeWhile isMarkedNameChar with
    | [] => none
    | name => some (.ofList name, rest.dropWhile isMarkedNameChar)
  | c :: rest =>
    if startsName c then
      some (.ofList (c :: rest.takeWhile isNameChar), rest.dropWhile isNameChar)
    else none
  | [] => none

/-- A text at the start, dropped. -/
def drop? (text : String) (cs : List Char) : Option (List Char) :=
  if text.toList.isPrefixOf cs then some (cs.drop text.length) else none

/-- A word at the start that no name goes on with, dropped. -/
def dropWord? (word : String) (cs : List Char) : Option (List Char) := do
  let rest ← drop? word cs
  if rest.head?.any isNameChar then none else some rest

/-! ## Strings and characters -/

/-- The character that the text behind a backslash stands for. -/
def readEscape? : List Char → Option (Char × List Char)
  | '\'' :: rest => some ('\'', rest)
  | '"' :: rest => some ('"', rest)
  | '\\' :: rest => some ('\\', rest)
  | 'n' :: rest => some ('\n', rest)
  | 'r' :: rest => some ('\r', rest)
  | 't' :: rest => some ('\t', rest)
  | '0' :: rest => some ('\x00', rest)
  | 'x' :: a :: b :: rest => (hexChar? [a, b]).map (·, rest)
  | 'u' :: '\x7b' :: rest => do
    let digits := rest.takeWhile isHexDigit
    let '\x7d' :: rest := rest.dropWhile isHexDigit | none
    guard (1 ≤ digits.length ∧ digits.length ≤ 6)
    return (← hexChar? digits, rest)
  | _ => none

/-- The rest of a string behind its opening quote. The first argument bounds the steps. -/
def readText? : Nat → List Char → Option (List Char × List Char)
  | 0, _ => none
  | _, [] => none
  | _, '"' :: rest => some ([], rest)
  | fuel + 1, c :: rest => do
    let (c, rest) ← if c = '\\' then readEscape? rest else some (c, rest)
    let (text, rest) ← readText? fuel rest
    return (c :: text, rest)

/-- The text before the closing quote of a string without escapes, and what is left behind it. -/
def readPlain? (closing : List Char) : List Char → Option (List Char × List Char)
  | [] => none
  | c :: rest =>
    if closing.isPrefixOf (c :: rest) then some ([], (c :: rest).drop closing.length)
    else (readPlain? closing rest).map fun (text, rest) => (c :: text, rest)

/-- A string. With `r` before it, it has no escapes and ends at a quote with as many hash signs as
stand before the opening one. -/
def readString? : List Char → Option (String × List Char)
  | '"' :: rest => (readText? (rest.length + 1) rest).map fun (s, rest) => (.ofList s, rest)
  | 'r' :: rest => do
    let hashes := rest.takeWhile (· = '#')
    let '"' :: rest := rest.drop hashes.length | none
    (readPlain? ('"' :: hashes) rest).map fun (s, rest) => (.ofList s, rest)
  | _ => none

/-- The rest of a character behind its opening quote. -/
def readChar? : List Char → Option (Char × List Char)
  | '\\' :: rest => do
    let (c, '\'' :: rest) ← readEscape? rest | none
    return (c, rest)
  | c :: '\'' :: rest => if c = '\'' then none else some (c, rest)
  | _ => none

/-! ## Numbers -/

/-- A character of an integer. -/
def isIntChar (c : Char) : Bool := isHexDigit c || c = '_'

/-- A character of a number with a point or an exponent. -/
def isFloatChar (c : Char) : Bool := c.isDigit || c ∈ ['.', 'e', 'E', '+', '-', '_']

/-- A number with a point or an exponent. -/
def readFloat? (cs : List Char) : Option (Item × List Char) := do
  let x ← readBinary64? (cs.takeWhile isFloatChar)
  return (.float x, cs.dropWhile isFloatChar)

/-- The base of an integer, and its digits. -/
def readBase : List Char → Nat × List Char
  | '0' :: 'x' :: digits => (16, digits)
  | '0' :: 'b' :: digits => (2, digits)
  | '0' :: 'o' :: digits => (8, digits)
  | digits => (10, digits)

/-- A number within 64 bits: what has no sign may be beyond the integers, and is a float then. -/
def integer? (signed : Bool) (n : Int) : Option Item :=
  if fitsInt64 n then some (.int (.ofInt n))
  else if !signed && fitsNat64 n.toNat then some (.float (.ofInt n))
  else none

/-- An integer. Underscores may stand behind its first digit. -/
def readInteger? (cs : List Char) : Option (Item × List Char) := do
  let (negative, behind) := readSign cs
  let (base, rest) := readBase behind
  let digits := rest.takeWhile isIntChar
  guard (digits ≠ [] ∧ digits.head? ≠ some '_')
  let n ← valueToBase? base (digits.filter (· ≠ '_'))
  let item ← integer? (behind.length < cs.length) (signedInt negative n)
  return (item, rest.dropWhile isIntChar)

/-- A number at the start of a text. -/
def readNumber? (cs : List Char) : Option (Item × List Char) :=
  let (_, digits) := readSign cs
  if (digits.takeWhile isIntChar).length < (digits.takeWhile isFloatChar).length then readFloat? cs
  else readInteger? cs <|> readFloat? cs

/-! ## Attributes -/

/-- The extensions that a document may ask for. They make more ways to write a value of a known
type, but none to write any value. -/
def extensions : List String := ["unwrap_newtypes", "implicit_some", "unwrap_variant_newtypes"]

/-- Extensions with commas between them. The first argument bounds the steps. -/
def readExtensions? : Nat → List Char → Option (List Char)
  | 0, _ => none
  | fuel + 1, cs => do
    let (name, rest) ← readName? cs
    guard (name ∈ extensions)
    match ← skipGaps? rest with
    | ',' :: rest =>
      let rest ← skipGaps? rest
      if rest.head?.any isNameChar then readExtensions? fuel rest else return rest
    | rest => return rest

/-- Texts with blanks behind each of them, dropped. -/
def dropAll? (texts : List String) (cs : List Char) : Option (List Char) :=
  texts.foldlM (fun cs text => (drop? text cs).bind skipGaps?) cs

/-- Attributes, each a list of extensions, and the blanks behind them, dropped. The first argument
bounds the steps. -/
def readAttributes? : Nat → List Char → Option (List Char)
  | 0, _ => none
  | fuel + 1, '#' :: rest => do
    let rest ← dropAll? ["#", "!", "[", "enable", "("] ('#' :: rest)
    let rest ← readExtensions? rest.length rest
    readAttributes? fuel (← dropAll? [")", "]"] rest)
  | _ + 1, rest => some rest

/-! ## Values -/

/-- The text behind a parenthesis starts with the name of a field. -/
def startsField (cs : List Char) : Bool :=
  match readName? cs with
  | none => false
  | some (_, rest) => (skipGaps? rest).any fun rest => rest.head? = some ':'

/-- A mark behind blanks and comments, dropped. -/
def readMark? (mark : Char) (cs : List Char) : Option (List Char) := do
  let c :: rest ← skipGaps? cs | none
  if c = mark then some rest else none

/-- A comma behind blanks and comments, dropped if it is there. -/
def skipComma? (cs : List Char) : Option (List Char) :=
  (skipGaps? cs).map fun rest => if rest.head? = some ',' then rest.drop 1 else rest

/-- The words and marks for single values. -/
def constants : List (String × Item) :=
  [("true", .bool true), ("false", .bool false), ("None", .null), ("()", .null),
    ("inf", .float (.infinite false)), ("+inf", .float (.infinite false)),
    ("-inf", .float (.infinite true)), ("NaN", .float .nan), ("+NaN", .float .nan),
    ("-NaN", .float .nan)]

/-- A constant at the start of a text. -/
def readConstant? (cs : List Char) : Option (Item × List Char) :=
  constants.findSome? fun (word, item) => (dropWord? word cs).map (item, ·)

/-- How many levels deep values may stand. An element is two levels below its list, structure or
map, and the value in an option one level below that. -/
def levelLimit : Nat := 128

mutual

/-- A value at the start of a text. The first argument bounds the steps. -/
def readValue? : Nat → (levels : Nat) → List Char → Option (Item × List Char)
  | 0, _, _ => none
  | fuel + 1, levels, cs =>
    match readConstant? cs, dropWord? "Some" cs, readName? cs with
    | some constant, _, _ => some constant
    | none, some rest, _ => do
      let levels + 1 := levels | none
      let rest ← readMark? '(' rest
      let (item, rest) ← readValue? fuel levels (← skipGaps? rest)
      return (item, ← readMark? ')' (← skipComma? rest))
    | none, none, some (_, rest) => do
      match ← skipGaps? rest with
      | '(' :: rest => readStructure? fuel levels rest
      | rest => return (.null, rest)
    | none, none, none =>
      match cs with
      | '(' :: rest => readStructure? fuel levels rest
      | '[' :: rest => do
        let levels + 1 := levels | none
        let (items, rest) ← readItems? ']' fuel levels rest
        return (.array items, rest)
      | '\x7b' :: rest => do
        let levels + 1 := levels | none
        let (members, rest) ← readMembers? false '\x7d' fuel levels [] rest
        return (.table members, rest)
      | '\'' :: rest => (readChar? rest).map fun (c, rest) => (.text (.singleton c), rest)
      | _ => (readString? cs).map (fun (s, rest) => (.text s, rest)) <|> readNumber? cs

/-- A structure behind its parenthesis: a table if its fields have names, or else a list. -/
def readStructure? : Nat → (levels : Nat) → List Char → Option (Item × List Char)
  | 0, _, _ | _, 0, _ => none
  | fuel + 1, levels + 1, cs => do
    let cs ← skipGaps? cs
    if startsField cs then
      let (members, rest) ← readMembers? true ')' fuel levels [] cs
      return (.table members, rest)
    else
      let (items, rest) ← readItems? ')' fuel levels cs
      return (.array items, rest)

/-- Elements up to the closing bracket. -/
def readItems? (closing : Char) : Nat → (levels : Nat) → List Char → Option (List Item × List Char)
  | 0, _, _ => none
  | fuel + 1, levels, cs => do
    let c :: cs ← skipGaps? cs | none
    if c = closing then return ([], cs)
    else
      let below + 1 := levels | none
      let (item, rest) ← readValue? fuel below (c :: cs)
      match ← skipGaps? rest with
      | ',' :: rest =>
        let (items, rest) ← readItems? closing fuel levels rest
        return (item :: items, rest)
      | rest => return ([item], ← readMark? closing rest)

/-- Values under their names, or under any string, up to the closing bracket; earlier ones are given
and may be written over. -/
def readMembers? (named : Bool) (closing : Char) :
    Nat → (levels : Nat) → Item.Members → List Char → Option (Item.Members × List Char)
  | 0, _, _, _ => none
  | fuel + 1, levels, earlier, cs => do
    let c :: cs ← skipGaps? cs | none
    if c = closing then return (earlier, cs)
    else
      let below + 1 := levels | none
      let (key, rest) ←
        if named then readName? (c :: cs)
        else if c = '\'' then (readChar? cs).map fun (c, rest) => (.singleton c, rest)
        else if (readName? (c :: cs)).isSome then none
        else readString? (c :: cs)
      let (item, rest) ← readValue? fuel below (← skipGaps? (← readMark? ':' rest))
      let members := Item.put key item earlier
      match ← skipGaps? rest with
      | ',' :: rest => readMembers? named closing fuel levels members rest
      | rest => return (members, ← readMark? closing rest)

end

/-- The item of a whole document. -/
def read? (s : String) : Option Item := do
  let cs := s.toList
  let start ← readAttributes? (cs.length + 1) (← skipGaps? cs)
  let (item, rest) ← readValue? (2 * cs.length + 2) levelLimit start
  guard ((← skipGaps? rest) = [])
  return item

end MarketQuery.Ron
