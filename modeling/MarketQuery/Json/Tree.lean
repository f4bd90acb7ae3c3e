import MarketQuery.Json.Token

/-!
# JSON as it is written

A tree keeps every number as it is written and every string as far as it is well formed, whatever
the depth. What of it is used has to meet stricter rules; what is skipped does not.

* `Tree`: the trees;
* `Tree.readList?`, `Tree.read?`: the tree of a whole text.
-/

namespace MarketQuery.Json

/-- A JSON value as it is written. A string that holds half of a surrogate pair has no text. -/
inductive Tree
  | null
  | bool (b : Bool)
  | number (token : NumberToken)
  | string (text? : Option String)
  | array (items : List Tree)
  | object (members : List (Option String × Tree))

namespace Tree

/-- Letters at the start of a text, dropped. -/
def dropWord? (word : List Char) (cs : List Char) : Option (List Char) :=
  if word.isPrefixOf cs then some (cs.drop word.length) else none

mutual

/-- A value at the start of a text. The first argument bounds the steps. -/
def readValue? : Nat → List Char → Option (Tree × List Char)
  | 0, _ => none
  | fuel + 1, cs =>
    match skipSpace cs with
    | 'n' :: rest => (dropWord? "ull".toList rest).map (null, ·)
    | 't' :: rest => (dropWord? "rue".toList rest).map (bool true, ·)
    | 'f' :: rest => (dropWord? "alse".toList rest).map (bool false, ·)
    | '"' :: rest => (readText? rest).map fun (units, rest) => (string (textOf? units), rest)
    | '[' :: rest =>
      match skipSpace rest with
      | ']' :: rest => some (array [], rest)
      | rest => (readItems? fuel rest).map fun (items, rest) => (array items, rest)
    | '\x7b' :: rest =>
      match skipSpace rest with
      | '\x7d' :: rest => some (object [], rest)
      | rest => (readMembers? fuel rest).map fun (members, rest) => (object members, rest)
    | rest => (readNumber? rest).map fun (token, rest) => (number token, rest)

/-- The items of an array and its closing bracket. -/
def readItems? : Nat → List Char → Option (List Tree × List Char)
  | 0, _ => none
  | fuel + 1, cs => do
    let (item, rest) ← readValue? fuel cs
    match skipSpace rest with
    | ']' :: rest => return ([item], rest)
    | ',' :: rest =>
      let (items, rest) ← readItems? fuel rest
      return (item :: items, rest)
    | _ => none

/-- The members of an object and its closing brace. -/
def readMembers? : Nat → List Char → Option (List (Option String × Tree) × List Char)
  | 0, _ => none
  | fuel + 1, cs => do
    let '"' :: rest := skipSpace cs | none
    let (units, rest) ← readText? rest
    let ':' :: rest := skipSpace rest | none
    let (value, rest) ← readValue? fuel rest
    match skipSpace rest with
    | '\x7d' :: rest => return ([(textOf? units, value)], rest)
    | ',' :: rest =>
      let (members, rest) ← readMembers? fuel rest
      return ((textOf? units, value) :: members, rest)
    | _ => none

end

/-- The tree of all characters of a text. -/
def readList? (cs : List Char) : Option Tree := do
  let (tree, rest) ← readValue? (cs.length + 1) cs
  guard (skipSpace rest = [])
  return tree

/-- The tree of a whole text. -/
def read? (s : String) : Option Tree := readList? s.toList

end Tree

end MarketQuery.Json
