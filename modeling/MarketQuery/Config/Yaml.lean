import MarketQuery.Config.Item
import MarketQuery.Config.Yaml.Node

/-!
# YAML

* `Scalar.item?`, `Node.item?`: the item of a node;
* `read?`: the item of a whole document.
-/

namespace MarketQuery.Yaml

open Config

/-- The item of a value without parts. A word for infinity has none. -/
def Scalar.item? : Scalar → Option Item
  | null => some .null
  | bool b => some (.bool b)
  | int n => some (.int n)
  | real s => (Number.readBinary64? s.toList).map .float
  | text s => some (.text s)

/-- A value without parts. -/
def Node.scalar? : Node → Option Scalar
  | .scalar value => some value
  | _ => none

/-- The keys of a map have no parts, and no two of them are equal. -/
def Node.hasKeys (entries : List (Node × Node)) : Bool :=
  match entries.mapM fun (key, _) => key.scalar? with
  | some keys => keys.Nodup
  | none => false

mutual

/-- The item of a node. -/
def Node.item? : Node → Option Item
  | .scalar value => value.item?
  | .list nodes => (itemsOf? nodes).map .array
  | .map entries => if hasKeys entries then (membersOf? [] entries).map .table else none
  | .bad => some .null

def Node.itemsOf? : List Node → Option (List Item)
  | [] => some []
  | node :: rest => do
    let item ← node.item?
    return item :: (← itemsOf? rest)

/-- The items under the keys of entries, over earlier ones. -/
def Node.membersOf? (earlier : Item.Members) : List (Node × Node) → Option Item.Members
  | [] => some earlier
  | (key, node) :: rest => do
    let key ← key.scalar?
    let item ← node.item?
    membersOf? (Item.put (← key.key?) item earlier) rest

end

/-- The item of a whole document. An empty one is an empty table. -/
def read? (s : String) : Option Item := do
  match ← Node.ofTokens? (← Token.ofText? s) with
  | none => return .table []
  | some node => node.item?

end MarketQuery.Yaml
