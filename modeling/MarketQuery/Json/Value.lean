import MarketQuery.Json.Number
import MarketQuery.Json.Tree

/-!
# JSON values

* `Value`: the values that are kept; under a repeated name the last value counts;
* `Tree.keep?`: the value of a tree, if its numbers are finite, its strings are texts and it is not
  nested too deep;
* `Value.same`, `Value.same_iff`: equality of values, which is decided.
-/

namespace MarketQuery.Json

/-- A JSON value that is kept. -/
inductive Value
  | null
  | bool (b : Bool)
  | number (n : Number)
  | string (s : String)
  | array (items : List Value)
  | object (members : List (String × Value))

namespace Value

mutual

/-- Two values are the same. -/
def same : Value → Value → Bool
  | null, null => true
  | bool a, bool b => a == b
  | number m, number n => m = n
  | string s, string t => s == t
  | array l, array m => sameItems l m
  | object l, object m => sameMembers l m
  | _, _ => false

/-- The same values follow one another. -/
def sameItems : List Value → List Value → Bool
  | [], [] => true
  | v :: l, w :: m => same v w && sameItems l m
  | _, _ => false

/-- The same named values follow one another. -/
def sameMembers : List (String × Value) → List (String × Value) → Bool
  | [], [] => true
  | (s, v) :: l, (t, w) :: m => s == t && same v w && sameMembers l m
  | _, _ => false

end

mutual

theorem same_iff : (v w : Value) → (same v w = true ↔ v = w)
  | array l, w => by cases w <;> simp [same, sameItems_iff l]
  | object l, w => by cases w <;> simp [same, sameMembers_iff l]
  | null, w | bool _, w | number _, w | string _, w => by cases w <;> simp [same]

theorem sameItems_iff : (l m : List Value) → (sameItems l m = true ↔ l = m)
  | [], m => by cases m <;> simp [sameItems]
  | v :: l, m => by cases m <;> simp [sameItems, same_iff v, sameItems_iff l]

theorem sameMembers_iff : (l m : List (String × Value)) → (sameMembers l m = true ↔ l = m)
  | [], m => by cases m <;> simp [sameMembers]
  | (s, v) :: l, m => by
    cases m <;> simp [sameMembers, same_iff v, sameMembers_iff l, and_assoc, Prod.ext_iff]

end

instance : DecidableEq Value := fun v w => decidable_of_iff (same v w = true) (same_iff v w)

end Value

/-- Named values, each name once. -/
abbrev Object := List (String × Value)

/-- The value of a name put into an object, over an earlier one. -/
def Object.put (o : Object) (name : String) (v : Value) : Object :=
  if o.any (·.1 == name) then o.map fun m => if m.1 = name then (name, v) else m
  else o ++ [(name, v)]

/-- The object of named values in the order in which they come. -/
def Object.ofMembers (members : List (String × Value)) : Object :=
  members.foldl (fun o m => Object.put o m.1 m.2) []

/-- How many arrays and objects may stand inside one another. -/
def depthLimit : Nat := 127

mutual

/-- The value of a tree that may hold `depth` arrays and objects inside one another. -/
def Tree.keep? (depth : Nat) : Tree → Option Value
  | .null => some .null
  | .bool b => some (.bool b)
  | .number token => (Number.ofToken? token).map .number
  | .string text? => text?.map .string
  | .array items =>
    match depth with
    | 0 => none
    | depth + 1 => (keepItems? depth items).map .array
  | .object members =>
    match depth with
    | 0 => none
    | depth + 1 => (keepMembers? depth members).map fun l => .object (Object.ofMembers l)

/-- The values of the items of an array. -/
def Tree.keepItems? (depth : Nat) : List Tree → Option (List Value)
  | [] => some []
  | item :: rest => do
    let v ← item.keep? depth
    return v :: (← keepItems? depth rest)

/-- The named values of the members of an object. -/
def Tree.keepMembers? (depth : Nat) : List (Option String × Tree) → Option (List (String × Value))
  | [] => some []
  | (name?, value) :: rest => do
    let name ← name?
    let v ← value.keep? depth
    return (name, v) :: (← keepMembers? depth rest)

end

/-- The value of a whole text. -/
def Value.read? (s : String) : Option Value := (Tree.read? s).bind (·.keep? depthLimit)

end MarketQuery.Json
