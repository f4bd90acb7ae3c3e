import MarketQuery.Cell
import MarketQuery.Config.KeyPath

/-!
# Configuration items

* `Item`: a value of a configuration, from whatever source;
* `Item.overlay`: a later source over an earlier one, key by key; letter case does not tell keys
  apart;
* `Item.assign?`: an item put at a path inside another one;
* `Item.toText?`, `Item.toCount?`: items as a text or as a count;
* `Item.fields?`: the items under the given keys.
-/

namespace MarketQuery.Config

/-- A value of a configuration. -/
inductive Item
  | null
  | bool (b : Bool)
  | int (n : Int64)
  | float (x : Binary64)
  | text (s : String)
  | array (items : List Item)
  | table (members : List (String × Item))

namespace Item

/-- Items under keys. -/
abbrev Members := List (String × Item)

/-- Writes an item over the one under the same key, or at the end. -/
def put (key : String) (item : Item) : Members → Members
  | [] => [(key, item)]
  | (k, i) :: rest => if k = key then (k, item) :: rest else (k, i) :: put key item rest

/-- The items of a table; anything else has none. -/
def members : Item → Members
  | table m => m
  | _ => []

mutual

/-- A later item over an earlier one. Tables are joined key by key; all else is replaced. -/
def overlay : Item → Option Item → Item
  | table [], earlier => earlier.getD (table [])
  | table (m :: rest), earlier => table (overlayAll (m :: rest) (earlier.elim [] members))
  | item, _ => item

/-- Later items over earlier ones. -/
def overlayAll : Members → Members → Members
  | [], earlier => earlier
  | (key, item) :: rest, earlier =>
    let key := Text.lower key
    overlayAll rest (put key (overlay item (earlier.lookup key)) earlier)

end

/-- The items of a list; anything else has none. -/
def elements : Item → List Item
  | array items => items
  | _ => []

/-- A list does not grow longer than this. -/
def maxLength : Nat := 16777216

/-- The index of a place in a list of the given length, counted from its end if negative. -/
def indexOf? (length : Nat) (place : Int) : Option Nat :=
  if 0 ≤ place then if place.toNat < maxLength then some place.toNat else none
  else if place.natAbs ≤ length then some (length - place.natAbs)
  else none

/-- An item put over what is at a path inside an earlier item. What is no table or no list on the
way becomes one, and a list grows by empty items up to a place beyond its end. A place before its
start or too far beyond its end is none. -/
def assign? (item : Item) : KeyPath → Option Item → Option Item
  | [], earlier => some (item.overlay earlier)
  | .name key :: path, earlier => do
    let members := earlier.elim [] members
    let key := Text.lower key
    return table (put key (← assign? item path (members.lookup key)) members)
  | .place n :: path, earlier => do
    let items := earlier.elim [] elements
    let index ← indexOf? items.length n
    let items := items ++ List.replicate (index + 1 - items.length) null
    match path with
    | [] => return array (items.set index item)
    | step :: path => return array (items.set index (← assign? item (step :: path) items[index]?))

/-! ## Items as settings -/

/-- An item as a text. -/
def toText? : Item → Option String
  | text s => some s
  | bool b => some (boolText b)
  | int n => some (intText n)
  | float x => some (Number.write .plain x)
  | _ => none

/-- The greatest count. -/
def maxCount : Nat := 18446744073709551615

/-- A count that a text gives: a word for a truth value, or digits behind an optional plus. -/
def readCount? (s : String) : Option Nat :=
  let cs := s.toList
  let word := Text.lower s
  if word ∈ ["true", "on", "yes"] then some 1
  else if word ∈ ["false", "off", "no"] then some 0
  else
    let digits := if cs.head? = some '+' then cs.tail else cs
    let n := Number.digitsValue digits
    if digits ≠ [] ∧ digits.all Char.isDigit ∧ n ≤ maxCount then some n else none

/-- An item as a count. A fraction is rounded, and what is out of range goes to the nearest count,
but a negative integer is none. -/
def toCount? : Item → Option Nat
  | int n => if 0 ≤ n then some n.toInt.toNat else none
  | bool b => some (if b then 1 else 0)
  | float x => some (x.toNatClamped maxCount)
  | text s => readCount? s
  | _ => none

/-- The items under the given keys, as far as they are there. An array gives them in order. -/
def fields? (keys : List String) : Item → Option (List (Option Item))
  | table m => some (keys.map fun key => m.lookup key)
  | array items => some ((List.range keys.length).map (items[·]?))
  | _ => none

end Item

end MarketQuery.Config
