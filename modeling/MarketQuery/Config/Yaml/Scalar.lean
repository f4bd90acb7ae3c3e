import MarketQuery.Config.Yaml.Cursor
import MarketQuery.Number.Radix

/-!
# Texts of YAML

* `readPlain?`: a text without quotes, which may go on over lines;
* `readQuoted?`: a text in single or double quotes;
* `readBlock?`: the lines below a bar or an angle, by their indentation.
-/

namespace MarketQuery.Yaml

/-! ## Without quotes -/

/-- The characters of a text without quotes up to a blank, a line end or a mark. -/
def plainRun (inFlow : Bool) : List Char → List Char
  | [] => []
  | c :: rest =>
    let ends := isGap c || (inFlow && isFlowMark c) ||
      (c = ':' && (endsBefore rest || (inFlow && rest.head?.any isFlowMark)))
    if ends then [] else c :: plainRun inFlow rest

/-- A dash before a mark, which starts no text in brackets. -/
def dashesMark : List Char → Bool
  | '-' :: c :: _ => isFlowMark c
  | _ => false

/-- A text without quotes, the later lines of which are indented by `indent`, and whether it was
left at a new line. `gap` is what stands for the blanks before it. The first argument bounds the
steps. -/
def readPlain? (inFlow : Bool) (indent : Nat) :
    Nat → (gap : List Char) → (newLine : Bool) → Cursor → Option (List Char × Bool × Cursor)
  | 0, _, _, _ => none
  | fuel + 1, gap, newLine, cursor =>
    if cursor.atMarker || cursor.at? (· = '#') then some ([], newLine, cursor)
    else if inFlow && dashesMark cursor.rest then none
    else
      match plainRun inFlow cursor.rest with
      | [] => some ([], newLine, cursor)
      | c :: run => do
        let text := gap ++ c :: run
        let behind := cursor.skipMany (run.length + 1)
        if !behind.at? isGap then return (text, false, behind)
        else
          let (blanks, breaks, next) ←
            behind.spanGap? indent Cursor.endLine? (behind.rest.length + 1) false
          if !inFlow && next.place.column < indent then return (text, 0 < breaks, next)
          else
            let (more, newLine, last) ←
              readPlain? inFlow indent fuel (fold blanks breaks) (0 < breaks) next
            return (text ++ more, newLine, last)

/-! ## In quotes -/

/-- The character that a letter behind a backslash stands for. -/
def escaped? : Char → Option Char
  | '0' => some '\x00'
  | 'a' => some '\x07'
  | 'b' => some '\x08'
  | 't' | '\t' => some '\t'
  | 'n' => some '\n'
  | 'v' => some '\x0b'
  | 'f' => some '\x0c'
  | 'r' => some '\r'
  | 'e' => some '\x1b'
  | ' ' => some ' '
  | '"' => some '"'
  | '/' => some '/'
  | '\\' => some '\\'
  | 'N' => some '\u0085'
  | '_' => some '\u00a0'
  | 'L' => some '\u2028'
  | 'P' => some '\u2029'
  | _ => none

/-- How many digits of a code point follow a letter behind a backslash. -/
def codeLength? : Char → Option Nat
  | 'x' => some 2
  | 'u' => some 4
  | 'U' => some 8
  | _ => none

/-- The character that the text behind a backslash stands for. -/
def readEscape? (cursor : Cursor) : Option (Char × Cursor) := do
  let c :: rest := cursor.rest | none
  match codeLength? c with
  | none => return (← escaped? c, cursor.skip)
  | some n =>
    guard (n ≤ rest.length)
    return (← Number.hexChar? (rest.take n), cursor.skipMany (n + 1))

/-- The rest of a text behind its opening quote. Its lines are indented by `indent`, and not with
tabs. The first argument bounds the steps. -/
def readQuoted? (single : Bool) (indent : Nat) : Nat → Cursor → Option (List Char × Cursor)
  | 0, _ => none
  | fuel + 1, cursor =>
    let onward (text : List Char) (next : Cursor) : Option (List Char × Cursor) :=
      (readQuoted? single indent fuel next).map fun (more, last) => (text ++ more, last)
    let spanGap? (newLine : Bool) (cursor : Cursor) : Option (List Char × Nat × Cursor) :=
      cursor.spanGap? indent (fun _ => none) (cursor.rest.length + 1) newLine
    if cursor.atMarker ∨ cursor.place.column < indent then none
    else
      match cursor.rest with
      | [] => none
      | c :: rest =>
        if isGap c then
          (spanGap? false cursor).bind fun (blanks, breaks, next) =>
            onward (fold blanks breaks) next
        else if single ∧ c = '\'' then
          if rest.head? = some '\'' then onward ['\''] (cursor.skipMany 2)
          else some ([], cursor.skip)
        else if !single ∧ c = '"' then some ([], cursor.skip)
        else if !single ∧ c = '\\' then
          if rest.head?.any isBreak then
            let below := cursor.skipMany 2
            if below.at? (· = '"') then some ([], below.skip)
            else (spanGap? true below).bind fun (_, breaks, next) => onward (lineFeeds breaks) next
          else (readEscape? cursor.skip).bind fun (c, next) => onward [c] next
        else onward [c] cursor.skip

/-! ## Blocks of lines -/

/-- What is done with the line ends behind the last line. -/
inductive Chomping
  /-- One of them is kept. -/
  | clip
  | strip
  | keep
  deriving DecidableEq, Repr

/-- A mark for what is done with the last line ends, if it comes next. -/
def readChomping (cursor : Cursor) : Option Chomping × Cursor :=
  match cursor.rest with
  | '+' :: _ => (some .keep, cursor.skip)
  | '-' :: _ => (some .strip, cursor.skip)
  | _ => (none, cursor)

/-- A digit for the indentation, if it comes next; it is not zero. -/
def readIncrement? (cursor : Cursor) : Option (Option Nat × Cursor) :=
  match cursor.rest with
  | '0' :: _ => none
  | c :: _ =>
    if c.isDigit then some (some (c.toNat - '0'.toNat), cursor.skip) else some (none, cursor)
  | [] => some (none, cursor)

/-- The marks of a block in either order, and the rest of their line. -/
def readHeader? (cursor : Cursor) : Option (Chomping × Option Nat × Cursor) := do
  let (first?, cursor) := readChomping cursor
  let (increment?, cursor) ← readIncrement? cursor
  let (chomping?, cursor) := if first?.isSome then (first?, cursor) else readChomping cursor
  return (chomping?.getD .clip, increment?, ← cursor.endLine?)

/-- The number of empty lines, the largest indentation among them and the next line, and where the
next line starts. No more than `indent?` spaces are indentation if it is known. The first argument
bounds the steps. -/
def readBreaks? (indent? : Option Nat) : Nat → Cursor → Option (Nat × Nat × Cursor)
  | 0, _ => none
  | fuel + 1, cursor =>
    let spaces := (cursor.rest.takeWhile (· = ' ')).length
    let next := cursor.skipMany <| match indent? with
      | none => spaces
      | some indent => min spaces (indent - cursor.place.column)
    if next.at? isBreak then do
      let (breaks, indent, last) ← readBreaks? indent? fuel next.skip
      return (breaks + 1, max next.place.column indent, last)
    else some (0, next.place.column, next)

/-- The line ends behind the last line of a block: the one that ends it, if it is there, and
`breaks` more. If the text ends in a line of the block, that line counts as ended. -/
def lastBreaks (chomping : Chomping) (indent : Nat) (lineEnd : Bool) (breaks : Nat)
    (cursor : Cursor) : List Char :=
  let ended := lineFeeds lineEnd.toNat ++
    if cursor.rest = [] ∧ max indent 1 ≤ cursor.place.column then ['\n'] else []
  match chomping with
  | .strip => []
  | .clip => ended
  | .keep => ended ++ lineFeeds breaks

/-- The lines of a block that are indented by `indent`. `lineEnd` tells that a line end stands
before them, `breaks` how many more do, and `blank` that the line before starts with a blank. The
first argument bounds the steps. -/
def readLines? (literal : Bool) (chomping : Chomping) (indent : Nat) :
    Nat → (lineEnd blank : Bool) → (breaks : Nat) → Cursor → Option (List Char × Cursor)
  | 0, _, _, _, _ => none
  | fuel + 1, lineEnd, blank, breaks, cursor =>
    if cursor.place.column = indent ∧ cursor.rest ≠ [] then do
      let startsBlank := cursor.at? isBlank
      let before :=
        if !literal && lineEnd && !blank && !startsBlank then if breaks = 0 then [' '] else []
        else lineFeeds lineEnd.toNat
      let (line, next) := cursor.span fun c => !isBreak c
      let text := before ++ lineFeeds breaks ++ line
      if next.rest = [] then return (text ++ lastBreaks chomping indent false 0 next, next)
      else
        let (breaks, _, below) ← readBreaks? (some indent) (next.rest.length + 1) next.skip
        let (more, last) ← readLines? literal chomping indent fuel true startsBlank breaks below
        return (text ++ more, last)
    else some (lastBreaks chomping indent lineEnd breaks cursor, cursor)

/-- What a block without any line stands for at the end of a text. -/
def emptyBlock (chomping : Chomping) (lineEnd : Bool) (breaks : Nat) : List Char :=
  match chomping, lineEnd with
  | .strip, _ | _, false => []
  | .clip, true => ['\n']
  | .keep, true => lineFeeds (max 1 breaks)

/-- A block behind its bar or angle. `outer?` is the indentation around it. -/
def readBlock? (literal : Bool) (outer? : Option Nat) (cursor : Cursor) :
    Option (List Char × Cursor) := do
  let (chomping, increment?, header) ← readHeader? cursor
  let start := header.skip
  guard (!start.at? (· = '\t'))
  let fuel := start.rest.length + 1
  let known? := increment?.map (outer?.getD 0 + ·)
  let (breaks, column, first) ← readBreaks? known? fuel start
  let indent := known?.getD (max column (outer?.elim 0 (· + 1)))
  if first.rest = [] then return (emptyBlock chomping (header.rest ≠ []) breaks, first)
  else
    guard (indent ≤ first.place.column ∨ outer?.any (first.place.column ≤ ·))
    readLines? literal chomping indent fuel false false breaks first

end MarketQuery.Yaml
