import MarketQuery.Number.Radix

/-!
# Strings of TOML

* `readText?`: a string on one line, with escapes or without;
* `readLines?`: a string over several lines, between three quotes;
* `readString?`: any string.
-/

namespace MarketQuery.Toml

/-- A blank within a line. -/
def isSpace (c : Char) : Bool := c = ' ' || c = '\t'

/-- A character that may stand in a string or in a comment. -/
def isPlain (c : Char) : Bool := c = '\t' || (0x20 ≤ c.toNat && c.toNat ≠ 0x7F)

/-- The character that a letter behind a backslash stands for. -/
def escaped? : Char → Option Char
  | 'b' => some '\x08'
  | 't' => some '\t'
  | 'n' => some '\n'
  | 'f' => some '\x0c'
  | 'r' => some '\r'
  | '"' => some '"'
  | '\\' => some '\\'
  | _ => none

/-- The rest of a string on one line, behind its opening quote. -/
def readText? (quote : Char) (escapes : Bool) : List Char → Option (List Char × List Char)
  | [] => none
  | c :: rest =>
    let onward (c? : Option Char) (read : Option (List Char × List Char)) := do
      let c ← c?
      let (cs, rest) ← read
      return (c :: cs, rest)
    if c = quote then some ([], rest)
    else if c = '\\' ∧ escapes then
      match rest with
      | 'u' :: a :: b :: c :: d :: rest =>
        onward (Number.hexChar? [a, b, c, d]) (readText? quote escapes rest)
      | 'U' :: a :: b :: c :: d :: e :: f :: g :: h :: rest =>
        onward (Number.hexChar? [a, b, c, d, e, f, g, h]) (readText? quote escapes rest)
      | e :: rest => onward (escaped? e) (readText? quote escapes rest)
      | [] => none
    else onward (if isPlain c then some c else none) (readText? quote escapes rest)

/-- A line end at the start, dropped. -/
def dropLineEnd? : List Char → Option (List Char)
  | '\n' :: rest => some rest
  | '\r' :: '\n' :: rest => some rest
  | _ => none

/-- Nothing but blanks stands before the next line end. -/
def endsLine (cs : List Char) : Bool := (dropLineEnd? (cs.dropWhile isSpace)).isSome

/-- The rest of a string over several lines, behind its opening quotes. One or two more quotes may
stand before the closing ones. Behind a backslash at the end of a line, `trimming` blanks and line
ends goes on up to the next character. -/
def readLines? (quote : Char) (escapes : Bool) :
    (trimming : Bool) → List Char → Option (List Char × List Char)
  | _, [] => none
  | trimming, c :: rest =>
    let onward (c? : Option Char) (read : Option (List Char × List Char)) := do
      let c ← c?
      let (cs, rest) ← read
      return (c :: cs, rest)
    if c = quote ∧ [quote, quote].isPrefixOf rest then
      let extra := ((rest.drop 2).take 2).takeWhile (· = quote)
      some (extra, rest.drop (2 + extra.length))
    else if trimming ∧ (isSpace c ∨ c = '\n') then readLines? quote escapes true rest
    else if c = '\n' then onward (some c) (readLines? quote escapes false rest)
    else if c = '\r' then
      match rest with
      | '\n' :: rest =>
        if trimming then readLines? quote escapes true rest
        else onward (some '\n') (readLines? quote escapes false rest)
      | _ => none
    else if c = '\\' ∧ escapes then
      if endsLine rest then readLines? quote escapes true rest
      else
        match rest with
        | 'u' :: a :: b :: c :: d :: rest =>
          onward (Number.hexChar? [a, b, c, d]) (readLines? quote escapes false rest)
        | 'U' :: a :: b :: c :: d :: e :: f :: g :: h :: rest =>
          onward (Number.hexChar? [a, b, c, d, e, f, g, h]) (readLines? quote escapes false rest)
        | e :: rest => onward (escaped? e) (readLines? quote escapes false rest)
        | [] => none
    else onward (if isPlain c then some c else none) (readLines? quote escapes false rest)

/-- A character starts a string. -/
def isQuote (c : Char) : Bool := c = '"' || c = '\''

/-- A string on one line, with what is left behind it. -/
def readLineString? : List Char → Option (String × List Char)
  | [] => none
  | quote :: rest =>
    if isQuote quote then
      (readText? quote (quote = '"') rest).map fun (cs, rest) => (.ofList cs, rest)
    else none

/-- A string, with what is left behind it. A line end behind three opening quotes does not count. -/
def readString? : List Char → Option (String × List Char)
  | a :: b :: c :: rest =>
    if isQuote a ∧ b = a ∧ c = a then
      let body := (dropLineEnd? rest).getD rest
      (readLines? a (a = '"') false body).map fun (cs, rest) => (.ofList cs, rest)
    else readLineString? (a :: b :: c :: rest)
  | cs => readLineString? cs

end MarketQuery.Toml
