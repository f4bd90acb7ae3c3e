import MarketQuery.Config.Environment
import MarketQuery.Text.Alphanumeric

/-!
# Files of environment variables

Each entry of such a file is a name, an equals sign and a text, which may be quoted and may then
take up several lines.

* `readEntry?`: the first entry of a text, with what is left;
* `readAssigned?`, `readText?`: the name and the text of an entry;
* `addTo`: an environment with the variables of a file that were not set yet, up to the first entry
  that is none.
-/

namespace MarketQuery.Config.EnvironmentFile

open Text

/-! ## Entries -/

/-- What is open at a place in an entry. -/
inductive Scan
  | plain
  | blank
  | escape
  | weak
  | weakEscape
  | strong
  | strongEscape
  | comment
  deriving DecidableEq, Repr

/-- What is open behind a character. -/
def Scan.step : Scan → Char → Scan
  | plain, c =>
    if isBlank c ∧ c ≠ '\n' ∧ c ≠ '\r' then blank
    else if c = '\\' then escape
    else if c = '"' then weak
    else if c = '\'' then strong
    else plain
  | blank, c =>
    if c = '#' then comment
    else if c = '\\' then escape
    else if c = '"' then weak
    else if c = '\'' then strong
    else plain
  | escape, _ => plain
  | weak, c => if c = '\\' then weakEscape else if c = '"' then plain else weak
  | weakEscape, _ => weak
  | strong, c => if c = '\\' then strongEscape else if c = '\'' then plain else strong
  | strongEscape, _ => strong
  | comment, _ => comment

/-- The text up to a comment, and what is open behind it. -/
def Scan.run (state : Scan) : List Char → List Char × Scan
  | [] => ([], state)
  | c :: rest =>
    match state.step c with
    | comment => ([], comment)
    | next =>
      let (text, last) := next.run rest
      (c :: text, last)

/-- The first line with its line end, and the rest. -/
def splitLine : List Char → List Char × List Char
  | [] => ([], [])
  | '\n' :: rest => (['\n'], rest)
  | c :: rest =>
    let (line, rest) := splitLine rest
    (c :: line, rest)

/-- A text without the line end behind it. -/
def dropLineEnd (cs : List Char) : List Char :=
  match cs.reverse with
  | '\n' :: '\r' :: rest => rest.reverse
  | '\n' :: rest => rest.reverse
  | _ => cs

/-- The rest of an entry behind `earlier` lines, and what is left. A line that starts with a hash
sign ends it without a text; an entry that does not end is none. The first argument bounds the
steps. -/
def readEntry? : Nat → (earlier : List Char) → Scan → List Char →
    Option (List Char × List Char)
  | 0, _, _, _ => none
  | _ + 1, _, _, [] => none
  | fuel + 1, earlier, state, cs =>
    let (line, rest) := splitLine cs
    let text := earlier ++ line
    if (text.dropWhile isBlank).head? = some '#' then some ([], rest)
    else
      match state.run line with
      | (_, .plain) => some (dropLineEnd text, rest)
      | (before, .comment) => some (earlier ++ before, rest)
      | (_, next) => readEntry? fuel text next rest

/-! ## Names -/

/-- A name at the start: a letter or an underscore, and then digits and points too. -/
def readName? (cs : List Char) : Option (String × List Char) :=
  let isStart (c : Char) : Bool := c.isAlpha || c = '_'
  let isPart (c : Char) : Bool := c.isAlphanum || c = '_' || c = '.'
  if cs.head?.any isStart then some (.ofList (cs.takeWhile isPart), cs.dropWhile isPart) else none

/-- An equals sign with blanks around it, dropped. -/
def dropEquals? (cs : List Char) : Option (List Char) :=
  match cs.dropWhile isBlank with
  | '=' :: rest => some (rest.dropWhile isBlank)
  | _ => none

/-- The word that may stand before a name. -/
def exportWord : String := "export"

/-- The name of an entry and what stands behind the equals sign. -/
def readAssigned? (cs : List Char) : Option (String × List Char) := do
  let (name, rest) ← readName? cs
  match dropEquals? rest with
  | some text => return (name, text)
  | none =>
    guard (name = exportWord)
    let (name, rest) ← readName? (rest.dropWhile isBlank)
    return (name, ← dropEquals? rest)

/-! ## Texts -/

/-- How far a reference to a variable is read. -/
inductive Reference
  /-- A dollar sign and a part of the name. -/
  | bare (name : List Char)
  /-- The same with a brace before the name. -/
  | braced (name : List Char)
  deriving DecidableEq, Repr

/-- What a text is read in. -/
structure Reading where
  weak : Bool := false
  strong : Bool := false
  escaped : Bool := false
  /-- Only blanks and a comment may follow. -/
  ended : Bool := false
  reference? : Option Reference := none
  /-- The text so far, the last character first. -/
  output : List Char := []

namespace Reading

/-- The text so far with one more. -/
def push (r : Reading) (cs : List Char) : Reading := { r with output := cs.reverse ++ r.output }

/-- A character behind a backslash. -/
def escape? (r : Reading) (c : Char) : Option Reading :=
  let r := { r with escaped := false }
  if c ∈ ['\\', '\'', '"', '$', ' '] then some (r.push [c])
  else if c = 'n' then some (r.push ['\n'])
  else none

/-- A character of a reference. A name is made of letters and digits; with a brace it goes on to the
closing one. -/
def refer (value : List Char → List Char) (isNameChar : Char → Bool) (r : Reading) (c : Char) :
    Reference → Reading
  | .bare name =>
    if isNameChar c then { r with reference? := some (.bare (name ++ [c])) }
    else if c = '\x7b' ∧ name = [] then { r with reference? := some (.braced []) }
    else
      let r := r.push (value name)
      if c = '$' then { r with reference? := some (.bare []) }
      else { r with reference? := none }.push [c]
  | .braced name =>
    if isNameChar c ∨ c ≠ '\x7d' then { r with reference? := some (.braced (name ++ [c])) }
    else { r with reference? := none }.push (value name)

/-- A character outside of quotes. -/
def plain (r : Reading) (c : Char) : Reading :=
  if c = '\'' then { r with strong := true }
  else if c = '"' then { r with weak := true }
  else if c = '\\' then { r with escaped := true }
  else if c = ' ' ∨ c = '\t' then { r with ended := true }
  else r.push [c]

/-- One more character. -/
def step? (value : List Char → List Char) (isNameChar : Char → Bool) (r : Reading) (c : Char) :
    Option Reading :=
  if r.escaped then r.escape? c
  else if r.strong then some (if c = '\'' then { r with strong := false } else r.push [c])
  else
    match r.reference? with
    | some reference => some (r.refer value isNameChar c reference)
    | none =>
      if c = '$' then some { r with reference? := some (.bare []) }
      else if r.weak then
        if c = '"' then some { r with weak := false }
        else if c = '\\' then some { r with escaped := true }
        else some (r.push [c])
      else some (r.plain c)

/-- The text at the end, if nothing is left open. -/
def finish? (value : List Char → List Char) (r : Reading) : Option String :=
  if r.strong ∨ r.weak then none
  else
    match r.reference? with
    | some (.braced _) => none
    | some (.bare name) => some (.ofList (r.push (value name)).output.reverse)
    | none => some (.ofList r.output.reverse)

/-- The text of an entry, from its characters. -/
def run? (value : List Char → List Char) (isNameChar : Char → Bool) :
    Reading → List Char → Option String
  | r, [] => r.finish? value
  | r, c :: rest =>
    if r.ended then
      if c = ' ' ∨ c = '\t' then run? value isNameChar r rest
      else if c = '#' then r.finish? value
      else none
    else (r.step? value isNameChar c).bind fun r => run? value isNameChar r rest

end Reading

/-- The text behind an equals sign. The name of a reference is made of letters and digits of any
script. -/
def readText? (value : List Char → List Char) (cs : List Char) : Option String :=
  if cs = [] ∨ cs.head? = some '#' then some "" else Reading.run? value isAlphanumeric {} cs

/-! ## Files -/

/-- The value of a variable that a reference names: from the environment, or else from the entries
before. -/
def valueOf (env entries : Environment) (name : List Char) : List Char :=
  let name := String.ofList name
  ((env.get? name <|> entries.get? name).getD "").toList

/-- The environment with the entries of a text that are not set yet, up to one that is none. The
first argument bounds the steps; `entries` are those before, the last one first. -/
def load : Nat → (env entries : Environment) → List Char → Environment
  | 0, env, _, _ => env
  | fuel + 1, env, entries, cs =>
    match readEntry? (cs.length + 1) [] .plain cs with
    | none => env
    | some (entry, rest) =>
      match (trimEnd entry).dropWhile isBlank with
      | [] | '#' :: _ => load fuel env entries rest
      | entry =>
        let read := do
          let (name, text) ← readAssigned? entry
          return (name, ← readText? (valueOf env entries) text)
        match read with
        | none => env
        | some (name, text) => load fuel (env.setNew name text) ((name, text) :: entries) rest

/-- A text without a byte order mark at its start. -/
def dropMark : List Char → List Char
  | '\ufeff' :: rest => rest
  | cs => cs

/-- An environment with the variables of a file that are not set yet. -/
def addTo (env : Environment) (content : String) : Environment :=
  let cs := dropMark content.toList
  load (cs.length + 1) env [] cs

end MarketQuery.Config.EnvironmentFile
