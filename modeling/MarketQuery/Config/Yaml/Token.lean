import MarketQuery.Config.Yaml.Scalar
import MarketQuery.Config.Yaml.Tag

/-!
# The tokens of YAML

A text is cut into tokens from its start. Indentation opens and closes lists and maps, and a token
may turn out to be a key only at the colon behind it; then the tokens that say so are put before it.

* `Token`: the tokens;
* `Lexer`: the tokens so far and all that the next one depends on;
* `Lexer.next?`: one more token;
* `Token.ofText?`: the tokens of a text.
-/

namespace MarketQuery.Yaml

/-- A token. -/
inductive Token
  | directive (directive : Directive)
  | documentStart
  | documentEnd
  /-- The start of a list by indentation. -/
  | blockList
  /-- The start of a map by indentation. -/
  | blockMap
  | blockEnd
  /-- The start of a list in brackets. -/
  | flowList
  | flowListEnd
  /-- The start of a map in braces. -/
  | flowMap
  | flowMapEnd
  /-- A dash before an element. -/
  | dash
  | comma
  | key
  | value
  | alias (name : String)
  | anchor (name : String)
  | tag (tag : Tag)
  | scalar (plain : Bool) (text : String)
  deriving DecidableEq, Repr

/-- A token that tells something about the node behind it. -/
def Token.isProperty : Token → Bool
  | anchor _ | tag _ => true
  | _ => false

/-- What may turn out to be a key. -/
structure PendingKey where
  /-- How many tokens stand before it. -/
  index : Nat
  place : Place
  /-- It has to be a key. -/
  required : Bool
  deriving DecidableEq, Repr

/-- A key outside of brackets stands on one line and is no longer than this. -/
def maxKeyLength : Nat := 1024

/-- How many lists and maps in brackets may stand inside one another. -/
def flowLimit : Nat := 255

/-- An open bracket. -/
structure Bracket where
  isList : Bool
  /-- What may turn out to be a key with the bracket. -/
  key? : Option PendingKey
  deriving DecidableEq, Repr

/-- A column that what belongs together is indented by. -/
structure Indent where
  column : Nat
  /-- A list or a map starts at this column; else the column is only the least one for a node. -/
  isBlock : Bool
  deriving DecidableEq, Repr

/-- The tokens so far and all that the next one depends on. -/
structure Lexer where
  cursor : Cursor
  tokens : Array Token := #[]
  /-- The column of the last token. -/
  lastColumn : Nat := 0
  /-- A key may start at the next token. -/
  keyAllowed : Bool := true
  key? : Option PendingKey := none
  /-- The open brackets, the innermost first. -/
  brackets : List Bracket := []
  /-- The indentations, the innermost first. -/
  indents : List Indent := []
  /-- The place at which a colon needs no blank behind it, behind a text in quotes or a bracket. -/
  adjacent? : Option Nat := none

namespace Lexer

/-! ## Steps common to several tokens -/

/-- Some bracket is open. -/
def inFlow (s : Lexer) : Bool := !s.brackets.isEmpty

def column (s : Lexer) : Nat := s.cursor.place.column

/-- The innermost indentation. -/
def indent? (s : Lexer) : Option Nat := s.indents.head?.map (·.column)

/-- The next token is not indented enough. -/
def isShallow (s : Lexer) : Bool := s.indent?.any (s.column < ·)

/-- One more token, with the place behind it. -/
def push (s : Lexer) (token : Token) (next : Cursor) : Lexer :=
  { s with tokens := s.tokens.push token, lastColumn := s.column, cursor := next }

/-- One more token, with the place behind the blanks and the comment that follow it. -/
def pushLine? (s : Lexer) (token : Token) (next : Cursor) : Option Lexer := do
  let (_, next) ← next.skipLine?
  return s.push token next

/-- Nothing before may turn out to be a key any more. -/
def dropKey? (s : Lexer) : Option Lexer :=
  if s.key?.any (·.required) then none else some { s with key? := none }

/-- The next token may turn out to be a key, if one may start there. -/
def saveKey (s : Lexer) : Lexer :=
  if s.keyAllowed then
    let required := !s.inFlow && s.indents.head? = some ⟨s.column, true⟩
    { s with key? := some { index := s.tokens.size, place := s.cursor.place, required } }
  else s

/-- Opens a list or a map at a column deeper than the ones that are open, at the end or before the
token with an index. -/
def openIndent (s : Lexer) (column : Nat) (index? : Option Nat) (token : Token) : Lexer :=
  if s.inFlow then s
  else
    let indents := match s.indents with
      | ⟨least, false⟩ :: outer => if least ≤ column then outer else s.indents
      | indents => indents
    if indents.head?.all (·.column < column) then
      { s with
        indents := ⟨column, true⟩ :: indents
        tokens := match index? with
          | some index => s.tokens.insertIdxIfInBounds index token
          | none => s.tokens.push token }
    else { s with indents }

/-- The node behind has to be deeper than the innermost list or map. -/
def indentNode (s : Lexer) : Lexer :=
  match s.inFlow, s.indents with
  | false, ⟨column, true⟩ :: outer =>
    { s with indents := ⟨column + 1, false⟩ :: ⟨column, true⟩ :: outer }
  | _, _ => s

/-- The node behind may start where it is. -/
def forgetNodeIndent (s : Lexer) : Lexer := { s with indents := s.indents.dropWhile (!·.isBlock) }

/-- Closes the lists and maps that are deeper than a column, or all of them. -/
def closeIndents (s : Lexer) (column? : Option Nat) : Lexer :=
  if s.inFlow then s
  else
    let isClosed (indent : Indent) : Bool := column?.all (· < indent.column)
    let closed := (s.indents.takeWhile isClosed).filter (·.isBlock)
    { s with
      indents := s.indents.dropWhile isClosed
      tokens := s.tokens ++ closed.map fun _ => Token.blockEnd }

/-- Forgets what is too far back to turn out to be a key, but inside of brackets nothing is. -/
def forgetKey? (s : Lexer) : Option Lexer :=
  let here := s.cursor.place
  let isFar (key : PendingKey) : Bool :=
    key.place.line < here.line || key.place.index + maxKeyLength < here.index
  if !s.inFlow && s.key?.any isFar then s.dropKey? else some s

/-- Blanks, line ends and comments, skipped. Tabs do not indent. The first argument bounds the
steps. -/
def skipGap? : Nat → Lexer → Option Lexer
  | 0, s => some s
  | fuel + 1, s =>
    if s.cursor.at? (· = '\t') && s.cursor.place.leading && s.isShallow then do
      skipGap? fuel { s with cursor := ← s.cursor.endLine? }
    else if s.cursor.at? isBlank then skipGap? fuel { s with cursor := s.cursor.skip }
    else if s.cursor.at? isBreak then
      skipGap? fuel { s with cursor := s.cursor.skip, keyAllowed := s.keyAllowed || !s.inFlow }
    else if s.cursor.at? (· = '#') then
      skipGap? fuel { s with cursor := s.cursor.skipComment }
    else some s

/-- Blanks, line ends and comments, skipped. -/
def skipGaps? (s : Lexer) : Option Lexer := s.skipGap? (s.cursor.rest.length + 1)

/-! ## Tokens -/

/-- A directive, or the start or the end of a document. -/
def readBoundary? (s : Lexer) (token : Token) (next : Cursor) : Option Lexer := do
  let s ← (s.closeIndents none).dropKey?
  return { s with keyAllowed := false }.push token next

/-- An opening bracket. -/
def openFlow? (s : Lexer) (token : Token) : Option Lexer := do
  let s := s.saveKey.indentNode
  guard (s.brackets.length < flowLimit)
  let brackets := { isList := token = .flowList, key? := s.key? } :: s.brackets
  { s with brackets, key? := none, keyAllowed := true }.pushLine? token s.cursor.skip

/-- A closing bracket. -/
def closeFlow? (s : Lexer) (token : Token) : Option Lexer := do
  let s ← s.dropKey?
  let s := match s.brackets with
    | bracket :: brackets => { s with key? := bracket.key?, brackets }
    | [] => s
  let s ← { s with keyAllowed := false }.pushLine? token s.cursor.skip
  return if s.inFlow then { s with adjacent? := some s.cursor.place.index } else s

/-- A comma. -/
def readComma? (s : Lexer) : Option Lexer := do
  let s ← s.dropKey?
  { s with keyAllowed := true }.pushLine? .comma s.cursor.skip

/-- A dash is what comes next. -/
def startsDash : List Char → Bool
  | '-' :: rest => endsBefore rest
  | _ => false

/-- A dash before an element. No tab stands between it and another dash, and no anchor or tag at the
start of a line before a dash at the start of a line below. -/
def readDash? (s : Lexer) : Option Lexer := do
  guard (!s.inFlow && s.keyAllowed)
  let behindProperty := s.lastColumn = 0 && s.tokens.back?.any (·.isProperty)
  guard (s.column ≠ 0 ∨ s.indents = [] ∨ !behindProperty)
  let (blanks, next) ← s.cursor.skip.skipLine?
  guard (!blanks.contains '\t' ∨ !startsDash next.rest)
  let s := s.openIndent s.column none .blockList
  let s ← (if next.at? fun c => isBreak c || isFlowMark c then s.indentNode else s).dropKey?
  return { s with keyAllowed := true }.push .dash next

/-- Room for a key or a value that no key before it goes with. -/
def openMap? (s : Lexer) : Option Lexer :=
  if s.inFlow then some s
  else if s.keyAllowed then some (s.openIndent s.column none .blockMap)
  else none

/-- A question mark before a key. No tab stands between them. -/
def readKey? (s : Lexer) : Option Lexer := do
  let s ← (← s.openMap?).dropKey?
  let behind := s.cursor.skip
  guard (behind.at? fun c => c = ' ' || isBreak c)
  let next := behind.skipSpaces (behind.rest.length + 1)
  guard (!next.at? (· = '\t'))
  return { s with keyAllowed := !s.inFlow }.push .key next

/-- The place behind the colon before a value. A tab alone does not stand between the colon and what
may start a key. -/
def behindColon? (s : Lexer) : Option Cursor := do
  let behind := s.cursor.skip
  if behind.at? (· = '\t') then
    let (blanks, next) ← behind.skipLine?
    guard (' ' ∈ blanks ∨ !next.at? isNameChar)
    return next
  else return behind

/-- A colon before a value. What may turn out to be a key is one; in a list in brackets it has to
stand on the same line. -/
def readValue? (s : Lexer) : Option Lexer := do
  let behind ← s.behindColon?
  match s.key? with
  | some key =>
    guard (key.place.line = s.cursor.place.line ∨ s.brackets.head?.all (!·.isList))
    let s := { s with tokens := s.tokens.insertIdxIfInBounds key.index .key }
    let s := (s.openIndent key.place.column (some key.index) .blockMap).indentNode
    return { s with key? := none, keyAllowed := false }.push .value behind
  | none =>
    let s := (← s.openMap?).indentNode
    return { s with keyAllowed := !s.inFlow }.push .value behind

/-- A token that may start a key, with the place behind it. -/
def readStart? (s : Lexer) (keyAllowed : Bool) (read? : Cursor → Option (Token × Cursor)) :
    Option Lexer := do
  let s := s.saveKey
  let (token, next) ← read? s.cursor
  return { s with keyAllowed }.push token next

/-- An anchor or an alias. -/
def readName? (s : Lexer) (token : String → Token) : Option Lexer :=
  s.readStart? false fun cursor =>
    (readAnchor? cursor.skip).map fun (name, next) => (token name, next)

/-- A block of lines. -/
def readBlock? (s : Lexer) (literal : Bool) : Option Lexer := do
  let s := s.saveKey.forgetNodeIndent
  let (text, next) ← Yaml.readBlock? literal s.indent? s.cursor.skip
  return { s with keyAllowed := true }.push (.scalar false (.ofList text)) next

/-- What may stand behind a text in quotes that starts on a given line. -/
def endsQuote (s : Lexer) (line : Nat) (next : Cursor) : Bool :=
  next.atEnd ||
    if s.inFlow then next.at? (· ∈ [',', ']', '\x7d', ':'])
    else next.at? (· = ':') && line = next.place.line

/-- A text in quotes. -/
def readQuoted? (s : Lexer) (single : Bool) : Option Lexer := do
  let s := s.saveKey
  let (text, next) ←
    Yaml.readQuoted? single (s.indent?.getD 0) (s.cursor.rest.length + 1) s.cursor.skip
  let (_, next) ← next.skipLine?
  guard (s.endsQuote s.cursor.place.line next)
  let s ← { s with keyAllowed := false }.push (.scalar false (.ofList text)) next |>.skipGaps?
  return { s with adjacent? := some s.cursor.place.index }

/-- A text without quotes. Behind its lines a key may start. -/
def readPlain? (s : Lexer) : Option Lexer := do
  let s := s.saveKey.forgetNodeIndent
  let indent := s.indent?.elim 0 (· + 1)
  guard (!s.inFlow ∨ indent ≤ s.column)
  let (text, newLine, next) ←
    Yaml.readPlain? s.inFlow indent (s.cursor.rest.length + 1) [] false s.cursor
  guard (text ≠ [])
  return { s with keyAllowed := newLine }.push (.scalar true (.ofList text)) next

/-- One more token of a text that does not end here. -/
def next? (s : Lexer) : Option Lexer :=
  match s.cursor.rest with
  | [] => none
  | c :: rest =>
    let ends := endsBefore rest
    let adjacent := s.inFlow &&
      (rest.head?.any isFlowMark || s.adjacent? = some s.cursor.place.index)
    if s.column = 0 ∧ c = '%' then do
      let (directive, next) ← readDirective? s.cursor.skip
      s.readBoundary? (.directive directive) next
    else if s.cursor.atMarker then
      let next := s.cursor.skipMany 3
      if c = '-' then s.readBoundary? .documentStart next
      else next.endLine?.bind (s.readBoundary? .documentEnd)
    else if s.isShallow then none
    else if c = '[' then s.openFlow? .flowList
    else if c = '\x7b' then s.openFlow? .flowMap
    else if c = ']' then s.closeFlow? .flowListEnd
    else if c = '\x7d' then s.closeFlow? .flowMapEnd
    else if c = ',' then s.readComma?
    else if c = '-' ∧ ends then s.readDash?
    else if c = '?' ∧ ends then s.readKey?
    else if c = ':' ∧ (ends || adjacent) then s.readValue?
    else if c = '*' then s.readName? .alias
    else if c = '&' then s.readName? .anchor
    else if c = '!' then
      s.readStart? false fun cursor =>
        (readTag? s.inFlow cursor).map fun (tag, next) => (.tag tag, next)
    else if c = '|' ∧ !s.inFlow then s.readBlock? true
    else if c = '>' ∧ !s.inFlow then s.readBlock? false
    else if c = '\'' then s.readQuoted? true
    else if c = '"' then s.readQuoted? false
    else if c ∈ ['%', '@', '\u0060'] then none
    else s.readPlain?

/-- The tokens of what is left, behind those so far. The first argument bounds the steps. -/
def run? : Nat → Lexer → Option (Array Token)
  | 0, _ => none
  | fuel + 1, s => do
    let s ← (← s.skipGaps?).forgetKey?
    let s := s.closeIndents (some s.column)
    if s.cursor.rest = [] then
      let s ← (s.closeIndents none).dropKey?
      return s.tokens
    else run? fuel (← s.next?)

end Lexer

/-- A text with line feeds for all its line ends. -/
def unifyBreaks : List Char → List Char
  | '\r' :: '\n' :: rest => '\n' :: unifyBreaks rest
  | '\r' :: rest => '\n' :: unifyBreaks rest
  | c :: rest => c :: unifyBreaks rest
  | [] => []

/-- The tokens of a text. It ends at its first null character. -/
def Token.ofText? (s : String) : Option (List Token) := do
  let cs := unifyBreaks (s.toList.takeWhile (· ≠ '\x00'))
  let tokens ← Lexer.run? (cs.length + 1) { cursor := { rest := cs } }
  return tokens.toList

end MarketQuery.Yaml
