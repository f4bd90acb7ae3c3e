import MarketQuery.Number.Reader

/-!
# Paths of keys

A setting may be named by a path: a name, and then names behind points and places in brackets, as in
`lists.first[0]`.

* `KeyStep`: a step from an item to one inside it;
* `KeyPath.ofText`: the path that a text names; a text that is no path names itself.
-/

namespace MarketQuery.Config

/-- A step from an item to one inside it. -/
inductive KeyStep
  | name (key : String)
  /-- A place in a list, counted from its end if negative. -/
  | place (n : Int)
  deriving DecidableEq, Repr

/-- Steps, the outermost first. -/
abbrev KeyPath := List KeyStep

namespace KeyPath

/-- A character of a name in a path. -/
def isNameChar (c : Char) : Bool := c.isAlphanum || c = '_' || c = '-' || c = ' '

/-- A blank around the number of a place. -/
def isGap (c : Char) : Bool := c = ' ' || c = '\t'

/-- A name at the start of a text, and what is left. -/
def readName? (cs : List Char) : Option (KeyStep × List Char) :=
  match cs.takeWhile isNameChar with
  | [] => none
  | name => some (.name (.ofList name), cs.dropWhile isNameChar)

/-- A place behind its opening bracket, and what is left. -/
def readPlace? (cs : List Char) : Option (KeyStep × List Char) := do
  let (negative, cs) := match cs.dropWhile isGap with
    | '-' :: rest => (true, rest)
    | rest => (false, rest)
  let (digits, cs) := Number.spanDigits cs
  let n := Number.signedInt negative (Number.digitsValue digits)
  let ']' :: rest := cs.dropWhile isGap | none
  if digits ≠ [] ∧ Number.fitsInt64 n then return (.place n, rest) else none

/-- The steps behind the first one. The first argument bounds the steps. -/
def readSteps? : Nat → List Char → Option KeyPath
  | _, [] => some []
  | 0, _ => none
  | fuel + 1, c :: rest => do
    let (step, rest) ←
      if c = '.' then readName? rest
      else if c = '[' then readPlace? rest
      else none
    return step :: (← readSteps? fuel rest)

/-- The path that a text is. -/
def read? (cs : List Char) : Option KeyPath := do
  let (step, rest) ← readName? cs
  return step :: (← readSteps? rest.length rest)

/-- The path that a text names; a text that is no path names itself. -/
def ofText (s : String) : KeyPath := (read? s.toList).getD [.name s]

end KeyPath

end MarketQuery.Config
