import MarketQuery.Config.Toml.Scalar

/-!
# How a TOML document grows

Headers and keys add to a tree. A table that a header or a value has defined is not defined again,
and keys with dots do not reach into the tables of headers.

* `Tree`, `Branches`: a document so far;
* `Branches.assign?`: a value under a key, which may have dots, in the table of a header;
* `Branches.openTable?`, `Branches.openElement?`: the table of a header, a new table of a list;
* `Branches.item?`: the item of a table.
-/

namespace MarketQuery.Toml

open Config

/-- How a table came to be. -/
inductive Origin
  /-- A header names it, or it is the whole document. -/
  | header
  /-- A header names a table inside it. -/
  | inside
  /-- A key with dots names it. -/
  | dots
  deriving DecidableEq, Repr

/-- A part of a document. -/
inductive Tree
  | leaf (item : Item)
  /-- A date, a time or both. -/
  | moment (text : String)
  | table (origin : Origin) (branches : List (String × Tree))
  /-- The tables of a list, the last one first. -/
  | list (tables : List (List (String × Tree)))

/-- The parts of a table. -/
abbrev Branches := List (String × Tree)

namespace Branches

/-- Writes a part over the one under the same key, or at the end. -/
def put (key : String) (part : Tree) : Branches → Branches
  | [] => [(key, part)]
  | (k, p) :: rest => if k = key then (k, part) :: rest else (k, p) :: put key part rest

/-- Changes the table at a path, of which missing tables are made. A path of a key with dots does
not enter the table of a header; in a list, a path goes on in the last table. -/
def alter? (dotted : Bool) (change : Origin → Branches → Option Branches) :
    Origin → List String → Branches → Option Branches
  | origin, [], branches => change origin branches
  | _, key :: path, branches =>
    match branches.lookup key with
    | none => do
      let origin : Origin := if dotted then .dots else .inside
      return put key (.table origin (← alter? dotted change origin path [])) branches
    | some (.table origin inner) =>
      if dotted ∧ origin = .header then none
      else do return put key (.table origin (← alter? dotted change origin path inner)) branches
    | some (.list (last :: earlier)) => do
      return put key (.list ((← alter? dotted change .header path last) :: earlier)) branches
    | some (.list []) | some (.leaf _) | some (.moment _) => none

/-- Puts a value under a new key into a table; a key with dots only into a table of such keys. -/
def insertNew? (hasDots : Bool) (key : String) (value : Tree) (origin : Origin)
    (branches : Branches) : Option Branches :=
  if hasDots ∧ origin ≠ .dots then none
  else if (branches.lookup key).isSome then none
  else some (put key value branches)

/-- A value under a key with dots or without, from a table. -/
def assignHere? (path : List String) (value : Tree) (branches : Branches) : Option Branches :=
  match path.getLast? with
  | none => none
  | some key =>
    let above := path.dropLast
    alter? true (insertNew? (above ≠ []) key value) .header above branches

/-- A value under a key in the table of a header. -/
def assign? (header path : List String) (value : Tree) (document : Branches) : Option Branches :=
  alter? false (fun _ => assignHere? path value) .header header document

/-- The table of a header, which no header, value or key with dots has defined. -/
def openTable? (header : List String) (document : Branches) : Option Branches :=
  header.getLast?.bind fun key =>
    let define (_ : Origin) (branches : Branches) : Option Branches :=
      match branches.lookup key with
      | none => some (put key (.table .header []) branches)
      | some (.table .inside inner) => some (put key (.table .header inner) branches)
      | _ => none
    alter? false define .header header.dropLast document

/-- A new table at the end of the list of a header. -/
def openElement? (header : List String) (document : Branches) : Option Branches :=
  header.getLast?.bind fun key =>
    let define (_ : Origin) (branches : Branches) : Option Branches :=
      match branches.lookup key with
      | none => some (put key (.list [[]]) branches)
      | some (.list tables) => some (put key (.list ([] :: tables)) branches)
      | _ => none
    alter? false define .header header.dropLast document

end Branches

/-- The key of a date or time that is written as a table. -/
def momentKey : String := "$__toml_private_datetime"

mutual

/-- The item of a part. -/
def Tree.item? : Tree → Option Item
  | .leaf item => some item
  | .moment text => some (.text text)
  | .table _ branches => tableItem? branches
  | .list tables => (tableItems? tables).map fun items => .array items.reverse

/-- The item of a table. If the key of a date or time comes first, its string is one. -/
def Tree.tableItem? : List (String × Tree) → Option Item
  | (key, part) :: rest =>
    if key = momentKey then
      match part with
      | .leaf (.text s) => (readMoment? false s.toList).map (.text ∘ String.ofList)
      | _ => none
    else do
      let item ← part.item?
      return .table ((key, item) :: (← itemsOf? rest))
  | [] => some (.table [])

/-- The items of the parts of a table. -/
def Tree.itemsOf? : List (String × Tree) → Option Item.Members
  | [] => some []
  | (key, part) :: rest => do
    let item ← part.item?
    return (key, item) :: (← itemsOf? rest)

/-- The items of tables. -/
def Tree.tableItems? : List (List (String × Tree)) → Option (List Item)
  | [] => some []
  | branches :: rest => do
    let item ← tableItem? branches
    return item :: (← tableItems? rest)

end

/-- The item of a table. -/
def Branches.item? (branches : Branches) : Option Item := Tree.tableItem? branches

end MarketQuery.Toml
