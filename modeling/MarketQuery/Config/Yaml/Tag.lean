import MarketQuery.Config.Yaml.Cursor
import MarketQuery.Number.Radix

/-!
# Names in YAML

* `readAnchor?`: the name of an anchor or an alias;
* `Tag`, `readTag?`: a tag as it is written;
* `Directive`, `readDirective?`: a line for the reader of a document.
-/

namespace MarketQuery.Yaml

/-! ## Anchors -/

/-- A character of the name of an anchor. -/
def isAnchorChar (c : Char) : Bool := !isGap c && !isFlowMark c && c ≠ '\ufeff'

/-- The name of an anchor or an alias behind its mark. -/
def readAnchor? (cursor : Cursor) : Option (String × Cursor) :=
  let (name, next) := cursor.span isAnchorChar
  if name = [] then none else some (.ofList name, next)

/-! ## Tags -/

/-- A tag as it is written: what it starts with, which may be declared, and its name. -/
structure Tag where
  handle : String
  name : String
  deriving DecidableEq, Repr

/-- A character of the start that is declared for tags, or of a tag in angles. -/
def isUriChar (c : Char) : Bool :=
  isNameChar c || c ∈ ['#', ';', '/', '?', ':', '@', '&', '=', '+', '$', ',', '.', '!', '~', '*',
    '\'', '(', ')', '[', ']', '%']

/-- A character of the name of a tag. -/
def isTagChar (c : Char) : Bool := isUriChar c && !isFlowMark c && c ≠ '!'

/-- An octet behind a percent sign at the start of a text. -/
def readOctet? : List Char → Option Nat
  | '%' :: a :: b :: _ => Number.valueToBase? 16 [a, b]
  | _ => none

/-- The character that an octet, or an octet and the next one, stand for. Longer codes give no
character. -/
def readEncoded? (cursor : Cursor) : Option (Char × Cursor) := do
  let first ← readOctet? cursor.rest
  if first < 0x80 then return (.ofNat first, cursor.skipMany 3)
  else
    guard (0xC0 ≤ first ∧ first < 0xE0)
    let next := cursor.skipMany 3
    let second ← readOctet? next.rest
    guard (0x80 ≤ second ∧ second < 0xC0)
    return (← Number.charOf? (first * 256 + second), next.skipMany 3)

/-- Characters of a kind, some of which may be written as octets. The first argument bounds the
steps. -/
def readUri? (test : Char → Bool) : Nat → Cursor → Option (List Char × Cursor)
  | 0, _ => none
  | fuel + 1, cursor =>
    match cursor.rest with
    | '%' :: _ => do
      let (c, next) ← readEncoded? cursor
      let (text, last) ← readUri? test fuel next
      return (c :: text, last)
    | c :: _ =>
      if test c then (readUri? test fuel cursor.skip).map fun (text, last) => (c :: text, last)
      else some ([], cursor)
    | [] => some ([], cursor)

/-- What a tag starts with: an exclamation mark, a name and maybe another mark. -/
def readHandle? (cursor : Cursor) : Option (List Char × Cursor) := do
  guard (cursor.at? (· = '!'))
  let (name, next) := cursor.skip.span isNameChar
  if next.at? (· = '!') then return ('!' :: name ++ ['!'], next.skip)
  else return ('!' :: name, next)

/-- A tag in angles, or behind what it starts with. -/
def readTag? (inFlow : Bool) (cursor : Cursor) : Option (Tag × Cursor) := do
  let fuel := cursor.rest.length + 1
  let (tag, next) ← match cursor.rest with
    | '!' :: '<' :: _ => do
      let (name, next) ← readUri? isUriChar fuel (cursor.skipMany 2)
      guard (next.at? (· = '>'))
      pure ({ handle := "", name := .ofList name : Tag }, next.skip)
    | _ => do
      let (handle, next) ← readHandle? cursor
      let (text, last) ← readUri? isTagChar fuel next
      if handle ≠ ['!'] ∧ handle.getLast? = some '!' then
        guard (text ≠ [])
        pure ({ handle := .ofList handle, name := .ofList text : Tag }, last)
      else
        let name := handle.tail ++ text
        pure (if name = [] then { handle := "", name := "!" : Tag }
          else { handle := "!", name := .ofList name : Tag }, last)
  guard (endsBefore next.rest ∨ (inFlow ∧ next.at? isFlowMark))
  return (tag, next)

/-! ## Directives -/

/-- A line for the reader of a document. -/
inductive Directive
  | version
  /-- What a handle stands for. -/
  | tag (handle start : String)
  /-- A line that says nothing. -/
  | unknown
  deriving DecidableEq, Repr

/-- A number of at most nine digits. -/
def readVersionNumber? (cursor : Cursor) : Option Cursor :=
  let (digits, next) := cursor.span Char.isDigit
  if 1 ≤ digits.length ∧ digits.length ≤ 9 then some next else none

/-- Two numbers with a point between them. -/
def readVersion? (cursor : Cursor) : Option (Directive × Cursor) := do
  let next ← readVersionNumber? (cursor.skipWhile isBlank)
  guard (next.at? (· = '.'))
  return (.version, ← readVersionNumber? next.skip)

/-- A handle and what it stands for. -/
def readTagDirective? (cursor : Cursor) : Option (Directive × Cursor) := do
  let (handle, next) ← readHandle? (cursor.skipWhile isBlank)
  guard (handle.getLast? = some '!')
  let start := next.skipWhile isBlank
  guard (start.at? fun c => c = '!' || isTagChar c)
  let (text, last) ← readUri? isUriChar (start.rest.length + 1) start
  guard (endsBefore last.rest)
  return (.tag (.ofList handle) (.ofList text), last)

/-- A directive behind its percent sign, with the rest of its line. -/
def readDirective? (cursor : Cursor) : Option (Directive × Cursor) := do
  let (name, next) := cursor.span isNameChar
  guard (name ≠ [] ∧ endsBefore next.rest)
  let (directive, last) ←
    if name = "YAML".toList then readVersion? next
    else if name = "TAG".toList then readTagDirective? next
    else some (.unknown, next.skipWhile fun c => !isBreak c)
  return (directive, (← last.endLine?).skip)

end MarketQuery.Yaml
