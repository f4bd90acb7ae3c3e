import MarketQuery.Config.Item
import MarketQuery.Number.Radix
import MarketQuery.Text.Blank

/-!
# INI

Lines of a key, an equals sign or a colon, and a text stand under headers in brackets or before
them all. A comment takes a line of its own.

* `readUntil?`: a text with escapes up to one of the characters that end it;
* `Line`, `readLines?`: the headers and the entries of a document in their order;
* `read?`: the item of a whole document.
-/

namespace MarketQuery.Ini

open Config Text

/-! ## Texts -/

/-- What stands behind a backslash, decoded. A line end is dropped, and a character without a
meaning of its own stays as it is. -/
def readEscape? : List Char → Option (List Char × List Char)
  | '0' :: rest => some (['\x00'], rest)
  | 'a' :: rest => some (['\x07'], rest)
  | 'b' :: rest => some (['\x08'], rest)
  | 't' :: rest => some (['\t'], rest)
  | 'r' :: rest => some (['\r'], rest)
  | 'n' :: rest => some (['\n'], rest)
  | '\n' :: rest => some ([], rest)
  | 'x' :: a :: b :: c :: d :: rest => (Number.hexChar? [a, b, c, d]).map fun e => ([e], rest)
  | 'x' :: _ => none
  | c :: rest => some ([c], rest)
  | [] => none

/-- A text up to a character that ends it, or, if `open?`, up to the end of all. The first argument
bounds the steps. -/
def readUntil? (isEnd : Char → Bool) (open? : Bool) :
    Nat → List Char → Option (List Char × List Char)
  | _, [] => if open? then some ([], []) else none
  | 0, _ => none
  | fuel + 1, c :: rest =>
    if isEnd c then some ([], c :: rest)
    else do
      let (decoded, rest) ← if c = '\\' then readEscape? rest else some ([c], rest)
      let (text, rest) ← readUntil? isEnd open? fuel rest
      return (decoded ++ text, rest)

/-- A character that ends a line. -/
def isLineEnd (c : Char) : Bool := c = '\n' || c = '\r'

/-- A text up to the end of its line. -/
def readRest? (cs : List Char) : Option (List Char × List Char) :=
  readUntil? isLineEnd true cs.length cs

/-- The text of an entry behind its equals sign. A quoted part at its start may take up several
lines. -/
def readText? (cs : List Char) : Option (List Char × List Char) :=
  match cs.dropWhile fun c => isBlank c && !isLineEnd c with
  | [] => some ([], [])
  | quote :: rest =>
    if quote = '"' ∨ quote = '\'' then do
      let (quoted, rest) ← readUntil? (· = quote) false rest.length rest
      let (behind, rest) ← readRest? (rest.drop 1)
      return (quoted ++ behind, rest)
    else readRest? (quote :: rest)

/-! ## Lines -/

/-- What a line says. -/
inductive Line
  | header (name : String)
  | entry (key text : String)
  deriving DecidableEq, Repr

/-- The text without the blanks at its two ends. -/
def trimmed (cs : List Char) : String := .ofList (trimList cs)

/-- Blanks dropped, and whether a line starts behind them. -/
def skipBlanks (atStart : Bool) : List Char → Bool × List Char
  | c :: rest => if isBlank c then skipBlanks (c = '\n') rest else (atStart, c :: rest)
  | [] => (atStart, [])

/-- The lines of a text, `key` being read already. The first argument bounds the steps. -/
def readLines? : Nat → (key : String) → (atStart : Bool) → List Char → Option (List Line)
  | 0, _, _, _ => none
  | fuel + 1, key, atStart, cs =>
    match skipBlanks atStart cs with
    | (_, []) => some []
    | (atStart, c :: rest) =>
      if c = ';' ∨ c = '#' then
        if atStart then readLines? fuel key true ((rest.dropWhile (· ≠ '\n')).drop 1) else none
      else if c = '[' then do
        let (name, rest) ← readUntil? (· = ']') false rest.length rest
        return .header (trimmed name) :: (← readLines? fuel key false (rest.drop 1))
      else if c = '=' ∨ c = ':' then
        if key = "" then none
        else do
          let (text, rest) ← readText? rest
          return .entry key (trimmed text) :: (← readLines? fuel "" false rest)
      else do
        let (key, rest) ← readUntil? (fun c => c = '=' || c = ':') false cs.length (c :: rest)
        readLines? fuel (trimmed key) false rest

/-! ## Documents -/

/-- The entries of the lines up to the next header, over earlier ones. -/
def entriesOf (earlier : Item.Members) : List Line → Item.Members
  | .entry key text :: rest => entriesOf (Item.put key (.text text) earlier) rest
  | _ => earlier

/-- The tables of the headers, over earlier items. Of two headers with one name the later counts. -/
def tablesOf (earlier : Item.Members) : List Line → Item.Members
  | .header name :: rest => tablesOf (Item.put name (.table (entriesOf [] rest)) earlier) rest
  | .entry .. :: rest => tablesOf earlier rest
  | [] => earlier

/-- The item of a whole document. -/
def read? (s : String) : Option Item := do
  let cs := s.toList
  let lines ← readLines? (cs.length + 1) "" true cs
  return .table (tablesOf (entriesOf [] lines) lines)

end MarketQuery.Ini
