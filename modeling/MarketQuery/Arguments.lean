import MarketQuery.Value

/-!
# Named arguments

* `Argument`: the text given for an argument, with the value that it stands for;
* `Arguments`: arguments under distinct keys, in the order in which the keys first came;
* `Arguments.insert`: a new key goes to the end, a known one keeps its place;
* `keys_insert`, `get?_insert`: the keys and the arguments after an insertion.
-/

namespace MarketQuery

/-- A value is the one that a text stands for. -/
class Coerced (raw : String) (value : outParam Value) : Prop where
  eq : value = .coerce raw

instance (raw : String) : Coerced raw (.coerce raw) := ⟨rfl⟩

/-- The text given for an argument, stored with the value that it stands for. -/
structure Argument where
  raw : String
  {value : Value}
  [coerced : Coerced raw value]
  deriving DecidableEq, Repr

theorem Argument.value_eq (a : Argument) : a.value = .coerce a.raw := a.coerced.eq

/-- An argument has nothing but what its text gives it. -/
theorem Argument.eq_mk (a : Argument) : a = ⟨a.raw⟩ := by
  obtain @⟨raw, _, ⟨rfl⟩⟩ := a
  rfl

/-- Writes an argument over the one under the same key, or at the end. -/
def Arguments.put (key : String) (a : Argument) :
    List (String × Argument) → List (String × Argument)
  | [] => [(key, a)]
  | (k, b) :: rest => if k = key then (k, a) :: rest else (k, b) :: put key a rest

theorem Arguments.map_fst_put (key : String) (a : Argument) (l : List (String × Argument)) :
    (Arguments.put key a l).map (·.1) =
      if key ∈ l.map (·.1) then l.map (·.1) else l.map (·.1) ++ [key] := by
  induction l with
  | nil => simp [put]
  | cons e rest ih =>
    obtain ⟨k, b⟩ := e
    by_cases h : k = key
    · simp [put, h]
    · have h' : ¬ key = k := fun e => h e.symm
      simp only [put, h, if_false, List.map_cons, ih, List.mem_cons, h', false_or]
      split <;> simp

theorem Arguments.nodup_put {key : String} {a : Argument} {l : List (String × Argument)}
    (h : (l.map (·.1)).Nodup) : ((Arguments.put key a l).map (·.1)).Nodup := by
  rw [map_fst_put]
  split
  case isTrue => exact h
  case isFalse hk =>
    rw [List.nodup_append]
    exact ⟨h, by simp, fun x hx y hy => by
      simp only [List.mem_singleton] at hy
      exact fun e => hk (hy ▸ e ▸ hx)⟩

/-- Arguments under distinct keys, in the order in which the keys first came. -/
structure Arguments where
  entries : List (String × Argument) := []
  nodup : (entries.map (·.1)).Nodup := by simp

namespace Arguments

instance : EmptyCollection Arguments := ⟨{}⟩

def keys (args : Arguments) : List String := args.entries.map (·.1)

/-- The arguments with a text put under a key. -/
def insert (args : Arguments) (key raw : String) : Arguments where
  entries := put key ⟨raw⟩ args.entries
  nodup := nodup_put args.nodup

/-- Key and text pairs inserted in their order. -/
def ofList (pairs : List (String × String)) : Arguments :=
  pairs.foldl (fun args (key, raw) => args.insert key raw) ∅

def get? (args : Arguments) (key : String) : Option Argument := args.entries.lookup key

def contains (args : Arguments) (key : String) : Bool := (args.get? key).isSome

def size (args : Arguments) : Nat := args.entries.length

theorem keys_insert (args : Arguments) (key raw : String) :
    (args.insert key raw).keys =
      if key ∈ args.keys then args.keys else args.keys ++ [key] :=
  map_fst_put ..

theorem lookup_put (key k : String) (a : Argument) (l : List (String × Argument)) :
    (put key a l).lookup k = if k = key then some a else l.lookup k := by
  induction l with
  | nil => by_cases h : k = key <;> simp [put, h, List.lookup_cons, beq_eq_false_iff_ne.2]
  | cons e rest ih =>
    obtain ⟨k', b⟩ := e
    by_cases h : k' = key <;> by_cases hk : k = key
    · simp [put, h, hk]
    · simp [put, h, hk, List.lookup_cons, beq_eq_false_iff_ne.2]
    · have hk' : (k == k') = false := beq_eq_false_iff_ne.2 fun e => h (e ▸ hk)
      rw [put, if_neg h, List.lookup_cons, hk', ih, if_pos hk, if_pos hk]
    · by_cases hkk : k = k'
      · simp [put, h, hkk]
      · have hk' : (k == k') = false := beq_eq_false_iff_ne.2 hkk
        simp only [put, h, hk, if_false, List.lookup_cons, hk', ih]

theorem get?_insert (args : Arguments) (key raw k : String) :
    (args.insert key raw).get? k = if k = key then some ⟨raw⟩ else args.get? k :=
  lookup_put ..

end Arguments

end MarketQuery
