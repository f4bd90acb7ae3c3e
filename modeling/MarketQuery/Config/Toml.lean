import MarketQuery.Config.Toml.Text
import MarketQuery.Config.Toml.Tree

/-!
# TOML

* `readValue?`: a value at the start of a text;
* `readLine?`: what a line adds to a document;
* `read?`: the item of a whole document.
-/

namespace MarketQuery.Toml

open Config

/-! ## Blanks and comments -/

def skipSpace (cs : List Char) : List Char := cs.dropWhile isSpace

/-- A comment at the start, dropped up to the end of its line. -/
def skipComment? : List Char → Option (List Char)
  | '#' :: rest =>
    let behind := rest.dropWhile isPlain
    if behind = [] ∨ (dropLineEnd? behind).isSome then some behind else none
  | cs => some cs

/-- What may stand behind a header or a value on its line, dropped with the line end. -/
def endLine? (cs : List Char) : Option (List Char) := do
  match ← skipComment? (skipSpace cs) with
  | [] => some []
  | rest => dropLineEnd? rest

/-- Blanks, line ends and comments, dropped. The first argument bounds the steps. -/
def skipGap? : Nat → List Char → Option (List Char)
  | 0, _ => none
  | fuel + 1, cs =>
    match skipSpace cs with
    | '#' :: rest => (skipComment? ('#' :: rest)).bind (skipGap? fuel)
    | rest =>
      match dropLineEnd? rest with
      | some rest => skipGap? fuel rest
      | none => some rest

/-! ## Keys -/

/-- A character of a key without quotes. -/
def isKeyChar (c : Char) : Bool := c.isAlphanum || c = '_' || c = '-'

/-- A key without dots. -/
def readKey? (cs : List Char) : Option (String × List Char) :=
  match cs.takeWhile isKeyChar with
  | [] => readLineString? cs
  | key => some (.ofList key, cs.dropWhile isKeyChar)

/-- How many keys a path may have, and how many lists and tables on one line may stand inside one
another. -/
def depthLimit : Nat := 79

/-- A key with dots or without, and the blanks around it. The first argument bounds the keys. -/
def readKeys? : Nat → List Char → Option (List String × List Char)
  | 0, _ => none
  | limit + 1, cs => do
    let (key, rest) ← readKey? (skipSpace cs)
    match skipSpace rest with
    | '.' :: rest =>
      let (path, rest) ← readKeys? limit rest
      return (key :: path, rest)
    | rest => return ([key], rest)

/-- A key with dots or without, and the blanks around it. -/
def readPath? (cs : List Char) : Option (List String × List Char) := readKeys? depthLimit cs

/-- A key and the equals sign behind it. -/
def readAssigned? (cs : List Char) : Option (List String × List Char) := do
  let (path, rest) ← readPath? cs
  let '=' :: rest := rest | none
  return (path, skipSpace rest)

/-! ## Values -/

mutual

/-- A value at the start of a text, in which `depth` lists and tables may stand inside one another.
The first argument bounds the steps. -/
def readValue? : Nat → (depth : Nat) → List Char → Option (Tree × List Char)
  | 0, _, _ => none
  | fuel + 1, depth, cs =>
    match cs with
    | '[' :: rest =>
      match depth with
      | 0 => none
      | depth + 1 =>
        (readElements? fuel depth rest).map fun (items, rest) => (.leaf (.array items), rest)
    | '\x7b' :: rest =>
      match depth with
      | 0 => none
      | depth + 1 => do
        let (branches, rest) ← match skipSpace rest with
          | '\x7d' :: rest => some ([], rest)
          | rest => readPairs? fuel depth [] rest
        return (.leaf (← Branches.item? branches), rest)
    | c :: rest =>
      if isQuote c then (readString? (c :: rest)).map fun (s, rest) => (.leaf (.text s), rest)
      else
        let (run, rest) := spanBare (c :: rest)
        match ofBare? run with
        | some (.item item) => some (.leaf item, rest)
        | some (.moment text) => some (.moment text, rest)
        | none => none
    | [] => none

/-- The elements of an array and its closing bracket. -/
def readElements? : Nat → (depth : Nat) → List Char → Option (List Item × List Char)
  | 0, _, _ => none
  | fuel + 1, depth, cs => do
    match ← skipGap? (fuel + 1) cs with
    | ']' :: rest => return ([], rest)
    | rest =>
      let (value, rest) ← readValue? fuel depth rest
      let item ← value.item?
      match ← skipGap? (fuel + 1) rest with
      | ']' :: rest => return ([item], rest)
      | ',' :: rest =>
        let (items, rest) ← readElements? fuel depth rest
        return (item :: items, rest)
      | _ => none

/-- The values of a table on one line and its closing brace. -/
def readPairs? : Nat → (depth : Nat) → Branches → List Char → Option (Branches × List Char)
  | 0, _, _, _ => none
  | fuel + 1, depth, branches, cs => do
    let (path, rest) ← readAssigned? cs
    let (value, rest) ← readValue? fuel depth rest
    let branches ← Branches.assignHere? path value branches
    match skipSpace rest with
    | '\x7d' :: rest => return (branches, rest)
    | ',' :: rest => readPairs? fuel depth branches rest
    | _ => none

end

/-! ## Documents -/

/-- A document so far, with the header that keys belong to. -/
structure State where
  document : Branches := []
  header : List String := []

/-- The path of a header between its brackets. -/
def readHeader? (brackets : Nat) (cs : List Char) : Option (List String × List Char) := do
  let (path, rest) ← readPath? cs
  if List.replicate brackets ']' = rest.take brackets then return (path, rest.drop brackets)
  else none

/-- What a line adds, and the lines behind it. -/
def readLine? (fuel : Nat) (state : State) (cs : List Char) : Option (State × List Char) := do
  match skipSpace cs with
  | '[' :: '[' :: rest =>
    let (header, rest) ← readHeader? 2 rest
    let document ← state.document.openElement? header
    return ({ document, header }, ← endLine? rest)
  | '[' :: rest =>
    let (header, rest) ← readHeader? 1 rest
    let document ← state.document.openTable? header
    return ({ document, header }, ← endLine? rest)
  | c :: rest =>
    if c = '#' ∨ (dropLineEnd? (c :: rest)).isSome then return (state, ← endLine? (c :: rest))
    else
      let (path, rest) ← readAssigned? (c :: rest)
      let (value, rest) ← readValue? fuel depthLimit rest
      let document ← state.document.assign? state.header path value
      return ({ state with document }, ← endLine? rest)
  | [] => return (state, [])

/-- What the remaining lines add. The first argument bounds the steps. -/
def readLines : Nat → State → List Char → Option State
  | _, state, [] => some state
  | 0, _, _ => none
  | fuel + 1, state, cs => do
    let (state, rest) ← readLine? (fuel + 1) state cs
    readLines fuel state rest

/-- A text without a byte order mark at its start. -/
def dropMark : List Char → List Char
  | '\ufeff' :: rest => rest
  | cs => cs

/-- The item of a whole document. -/
def read? (s : String) : Option Item := do
  let cs := dropMark s.toList
  let state ← readLines (cs.length + 1) {} cs
  state.document.item?

end MarketQuery.Toml
