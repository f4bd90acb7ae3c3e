import MarketQuery.Json.Record

/-!
# What servers answer with

* `History`: the bars of a symbol, one line each;
* `Page`: some rows of a listing or a report, with what is announced of the whole;
* `content?`: the content of a reply, none inside where there is nothing to give;
* `History.ofReply?`, `quoteOfReply?`: the history and the quote that a reply gives;
* `Page.ofTree?`: the page in a tree.
-/

namespace MarketQuery.Provider

open Json

/-- The bars of a symbol, one line each. -/
structure History where
  code : String := ""
  name : Option String := none
  lines : List String := []
  deriving DecidableEq, Repr

/-- Some of the rows of a listing or a report. -/
structure Page where
  /-- How many rows a listing has, or how many pages a report. -/
  announced : Nat
  rows : List Object
  deriving DecidableEq

/-- The content of a reply, which has a single known field. -/
def content? {α : Type} (name : String) (required : Nat) (decode : Tree → Option α)
    (reply : Tree) : Option (Option α) := do
  let fields ← reply.fields? [name] required
  orElse? none (optional? decode) fields.head?.join

/-- The bars in a tree. -/
def History.ofTree? (tree : Tree) : Option History := do
  let [code, name, lines] ← tree.fields? ["code", "name", "klines"] 0 | none
  return {
    code := ← orElse? "" Tree.text? code
    name := ← orElse? none (optional? Tree.text?) name
    lines := ← orElse? [] (Tree.items? Tree.text?) lines }

/-- Some rows in a tree that has the announced number and the rows under the given names. A row
stands inside the list, the record and the reply. -/
def Page.ofTree? (announced rows : String) (tree : Tree) : Option Page := do
  let [announced, rows] ← tree.fields? [announced, rows] 0 | none
  return {
    announced := ← orElse? 0 Tree.count? announced
    rows := ← orElse? [] (Tree.items? (Tree.row? 3)) rows }

/-- The bars that a reply gives. -/
def History.ofReply? : Tree → Option (Option History) := content? "data" 1 History.ofTree?

/-- The fields of a symbol that a reply gives. -/
def quoteOfReply? : Tree → Option (Option Object) := content? "data" 1 (Tree.row? 1)

end MarketQuery.Provider
