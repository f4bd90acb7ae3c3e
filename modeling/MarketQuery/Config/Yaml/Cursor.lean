/-!
# Places in a YAML text

The only line end in a text is a line feed.

* `Place`, `Cursor`: a place, and a place with the text behind it;
* `Cursor.atMarker`: three dashes or points at the start of a line, which end a document;
* `Cursor.skipLine?`: the blanks behind a token, and a comment behind them;
* `Cursor.spanGap?`, `fold`: the blanks and line ends within a text, and what they stand for.
-/

namespace MarketQuery.Yaml

/-! ## Characters -/

def isBreak (c : Char) : Bool := c = '\n'

/-- A blank within a line. -/
def isBlank (c : Char) : Bool := c = ' ' || c = '\t'

/-- A blank or a line end. -/
def isGap (c : Char) : Bool := isBlank c || isBreak c

/-- A character of a name. -/
def isNameChar (c : Char) : Bool := c.isAlphanum || c = '_' || c = '-'

/-- A mark of lists and maps in brackets. -/
def isFlowMark (c : Char) : Bool := c ∈ [',', '[', ']', '\x7b', '\x7d']

/-- What stands before a text ends with it: it is empty or starts with a blank or a line end. -/
def endsBefore (cs : List Char) : Bool := cs.head?.all isGap

/-- Three times the same mark, and then the end of a word. -/
def startsMarker (mark : Char) : List Char → Bool
  | a :: b :: c :: rest => a = mark && b = mark && c = mark && endsBefore rest
  | _ => false

/-! ## Places -/

/-- A place in a text. -/
structure Place where
  line : Nat := 0
  column : Nat := 0
  /-- How many characters stand before it. -/
  index : Nat := 0
  /-- Nothing but blanks stands before it on its line. -/
  leading : Bool := true
  deriving DecidableEq, Repr

/-- The place behind a character. -/
def Place.after (p : Place) (c : Char) : Place :=
  if isBreak c then { line := p.line + 1, index := p.index + 1 }
  else { p with column := p.column + 1, index := p.index + 1, leading := p.leading && isBlank c }

/-- A place and the text behind it. -/
structure Cursor where
  place : Place := {}
  rest : List Char
  deriving DecidableEq, Repr

namespace Cursor

/-- Behind the next character. -/
def skip : Cursor → Cursor
  | ⟨place, c :: rest⟩ => ⟨place.after c, rest⟩
  | cursor => cursor

/-- Behind the next `n` characters. -/
def skipMany : (n : Nat) → Cursor → Cursor
  | 0, cursor => cursor
  | n + 1, cursor => skipMany n cursor.skip

/-- The characters of a kind that come next, and the place behind them. -/
def span (test : Char → Bool) (cursor : Cursor) : List Char × Cursor :=
  let run := cursor.rest.takeWhile test
  (run, cursor.skipMany run.length)

/-- Behind the characters of a kind that come next. -/
def skipWhile (test : Char → Bool) (cursor : Cursor) : Cursor := (cursor.span test).2

/-- What comes next is a character of a kind. -/
def at? (test : Char → Bool) (cursor : Cursor) : Bool := cursor.rest.head?.any test

/-- The line ends here. -/
def atEnd (cursor : Cursor) : Bool := cursor.rest.head?.all isBreak

/-- Three dashes or three points at the start of a line. -/
def atMarker (cursor : Cursor) : Bool :=
  cursor.place.column = 0 && (startsMarker '-' cursor.rest || startsMarker '.' cursor.rest)

/-- Behind a comment, which goes on to the end of its line. -/
def skipComment (cursor : Cursor) : Cursor :=
  if cursor.at? (· = '#') then cursor.skipWhile fun c => !isBreak c else cursor

/-- The blanks that come next, and the place behind them and behind a comment, before which some
blank has to stand. -/
def skipLine? (cursor : Cursor) : Option (List Char × Cursor) :=
  let (blanks, next) := cursor.span isBlank
  if next.at? (· = '#') ∧ blanks = [] then none else some (blanks, next.skipComment)

/-- The end of a line on which only blanks and a comment come next. -/
def endLine? (cursor : Cursor) : Option Cursor := do
  let (_, next) ← cursor.skipLine?
  if next.atEnd then return next else none

/-- Behind spaces, line ends and comments. The first argument bounds the steps. -/
def skipSpaces : Nat → Cursor → Cursor
  | 0, cursor => cursor
  | fuel + 1, cursor =>
    let next := (cursor.skipWhile fun c => c = ' ' || isBreak c).skipComment
    if next.place.index = cursor.place.index then cursor else skipSpaces fuel next

/-! ## Gaps within texts -/

/-- The blanks before the first line end that comes next, the number of line ends, and the place
behind all blanks and line ends. `skipTab?` leads on from a tab in the first `indent` columns of a
new line. The first argument bounds the steps. -/
def spanGap? (indent : Nat) (skipTab? : Cursor → Option Cursor) :
    Nat → (newLine : Bool) → Cursor → Option (List Char × Nat × Cursor)
  | 0, _, _ => none
  | fuel + 1, newLine, cursor =>
    match cursor.rest with
    | [] => some ([], 0, cursor)
    | c :: _ =>
      if isBreak c then do
        let (_, breaks, last) ← spanGap? indent skipTab? fuel true cursor.skip
        return ([], breaks + 1, last)
      else if newLine ∧ c = '\t' ∧ cursor.place.column < indent then
        (skipTab? cursor).bind (spanGap? indent skipTab? fuel true)
      else if isBlank c then do
        let (blanks, breaks, last) ← spanGap? indent skipTab? fuel newLine cursor.skip
        return (if newLine then blanks else c :: blanks, breaks, last)
      else some ([], 0, cursor)

end Cursor

/-- So many line feeds. -/
def lineFeeds (n : Nat) : List Char := List.replicate n '\n'

/-- What blanks and line ends within a text stand for. One line end is a space, of several the first
does not count, and the blanks around line ends do not count. -/
def fold (blanks : List Char) : (breaks : Nat) → List Char
  | 0 => blanks
  | 1 => [' ']
  | n + 2 => lineFeeds (n + 1)

end MarketQuery.Yaml
