import MarketQuery.Function

/-!
# Registries

* `Registry`: functions under distinct names, in the order of the names;
* `Registry.register`: a function goes to its place, over an earlier one of its name;
* `Registry.resolve`, `Registry.signatures`: the function of a name; all signatures in order;
* `resolve_register`: what a name gives after a registration.
-/

namespace MarketQuery

/-- Functions in the order of their names, which are distinct. -/
structure Registry where
  functions : List QueryFunction := []
  ordered : functions.Pairwise fun f g => f.name < g.name := by simp

namespace Registry

instance : EmptyCollection Registry := ⟨{}⟩

/-- Puts a function to its place, over one of the same name. -/
def put (f : QueryFunction) : List QueryFunction → List QueryFunction
  | [] => [f]
  | g :: rest =>
    if f.name < g.name then f :: g :: rest
    else if f.name = g.name then f :: rest
    else g :: put f rest

theorem mem_put {f g : QueryFunction} {l : List QueryFunction} (h : g ∈ put f l) :
    g = f ∨ g ∈ l := by
  induction l with
  | nil => simpa [put] using h
  | cons k rest ih =>
    simp only [put] at h
    split at h
    · exact List.mem_cons.1 h
    · split at h
      · rcases List.mem_cons.1 h with h | h
        · exact .inl h
        · exact .inr (List.mem_cons_of_mem _ h)
      · rcases List.mem_cons.1 h with h | h
        · exact .inr (h ▸ List.mem_cons_self)
        · exact (ih h).imp_right (List.mem_cons_of_mem _)

theorem pairwise_put {f : QueryFunction} {l : List QueryFunction}
    (h : l.Pairwise fun f g => f.name < g.name) :
    (put f l).Pairwise fun f g => f.name < g.name := by
  induction l with
  | nil => simp [put]
  | cons g rest ih =>
    have hg := List.pairwise_cons.1 h
    simp only [put]
    split
    case isTrue hlt =>
      refine List.pairwise_cons.2 ⟨fun k hk => ?_, h⟩
      rcases List.mem_cons.1 hk with rfl | hk
      · exact hlt
      · exact String.lt_trans hlt (hg.1 k hk)
    case isFalse hlt =>
      split
      case isTrue heq =>
        exact List.pairwise_cons.2 ⟨fun k hk => heq ▸ hg.1 k hk, hg.2⟩
      case isFalse hne =>
        refine List.pairwise_cons.2 ⟨fun k hk => ?_, ih hg.2⟩
        rcases mem_put hk with rfl | hk
        · exact Classical.byContradiction fun hle =>
            hne (String.le_antisymm (String.not_lt.1 hle) (String.not_lt.1 hlt))
        · exact hg.1 k hk

/-- The registry with a function put to its place. -/
def register (r : Registry) (f : QueryFunction) : Registry where
  functions := put f r.functions
  ordered := pairwise_put r.ordered

/-- Functions registered in their order. -/
def ofList (functions : List QueryFunction) : Registry := functions.foldl register ∅

/-- The function of a name. -/
def resolve (r : Registry) (name : String) : Option QueryFunction :=
  r.functions.find? (·.name == name)

/-- The signatures in the order of the names. -/
def signatures (r : Registry) : List Signature := r.functions.map (·.signature)

def size (r : Registry) : Nat := r.functions.length

def isEmpty (r : Registry) : Bool := r.functions.isEmpty

/-- The names, quoted, in brackets. -/
def display (r : Registry) : String :=
  "[" ++ ", ".intercalate (r.functions.map (Text.quote ·.name)) ++ "]"

theorem find?_put (f : QueryFunction) (l : List QueryFunction) (name : String) :
    (put f l).find? (·.name == name) =
      if f.name = name then some f else l.find? (·.name == name) := by
  induction l with
  | nil => by_cases h : f.name = name <;> simp [put, h]
  | cons g rest ih =>
    simp only [put]
    split
    · by_cases h : f.name = name <;> simp [List.find?_cons, h]
    · split
      case isTrue heq => by_cases h : f.name = name <;> simp_all
      case isFalse hne =>
        by_cases h : f.name = name
        · have hg : (g.name == name) = false := by simpa [h] using Ne.symm hne
          simp [hg, ih, h]
        · simp only [List.find?_cons, ih, h, if_false]

/-- A name gives the function registered last under it. -/
theorem resolve_register (r : Registry) (f : QueryFunction) (name : String) :
    (r.register f).resolve name = if f.name = name then some f else r.resolve name :=
  find?_put ..

end Registry

end MarketQuery
