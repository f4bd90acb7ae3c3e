import MarketQuery.Json.Value

/-!
# Records in JSON

A record with known fields comes as an object, of which unknown members are skipped, or as an array
of its fields in their order, of which the last ones may be left out.

* `Tree.fields?`: the trees of the known fields;
* `Tree.text?`, `Tree.count?`, `Tree.items?`, `Tree.row?`: what a field may hold;
* `optional?`, `orElse?`: fields that may be null or left out.
-/

namespace MarketQuery.Json

namespace Tree

/-- The tree under a name, if the name does not come twice. -/
def member? (members : List (String × Tree)) (name : String) : Option (Option Tree) :=
  match members.filter (·.1 == name) with
  | [] => some none
  | [(_, value)] => some (some value)
  | _ => none

/-- The trees of the known fields, as far as they are there. An array gives the fields in order and
at least the first `required` of them. -/
def fields? (names : List String) (required : Nat) : Tree → Option (List (Option Tree))
  | array items =>
    if required ≤ items.length ∧ items.length ≤ names.length then
      some ((List.range names.length).map (items[·]?))
    else none
  | object members => do
    let members ← members.mapM fun (name?, value) => name?.map (·, value)
    names.mapM (member? members)
  | _ => none

def text? : Tree → Option String
  | string text? => text?
  | _ => none

/-- A number of things: an integer of 64 bits without a sign. -/
def count? : Tree → Option Nat
  | number token =>
    if token.isInteger ∧ ¬ token.negative then
      let n := Number.digitsValue token.numeral.whole
      if Number.fitsNat64 n then some n else none
    else none
  | _ => none

/-- The items of an array, each decoded. -/
def items? {α : Type} (decode : Tree → Option α) : Tree → Option (List α)
  | array items => items.mapM decode
  | _ => none

/-- An object that is kept, inside so many arrays and objects. -/
def row? (around : Nat) (tree : Tree) : Option Object :=
  match tree.keep? (depthLimit - around) with
  | some (.object members) => some members
  | _ => none

end Tree

variable {α : Type}

/-- A field that may be null. -/
def optional? (decode : Tree → Option α) : Tree → Option (Option α)
  | .null => some none
  | tree => (decode tree).map some

/-- A field that may be left out. -/
def orElse? (default : α) (decode : Tree → Option α) : Option Tree → Option α
  | none => some default
  | some tree => decode tree

end MarketQuery.Json
