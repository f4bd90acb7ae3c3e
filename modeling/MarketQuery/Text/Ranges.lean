/-!
# Sets of characters given by ranges

* `Ranges`: closed ranges of code points; `Ranges.contains`: the characters they hold;
* `contains_append`: two lists of ranges hold what either of them holds.
-/

namespace MarketQuery.Text

/-- Closed ranges of code points. -/
abbrev Ranges := List (Nat × Nat)

/-- A character lies in one of the ranges. -/
def Ranges.contains (ranges : Ranges) (c : Char) : Bool :=
  ranges.any fun r => r.1 ≤ c.toNat && c.toNat ≤ r.2

theorem Ranges.contains_append (r s : Ranges) (c : Char) :
    Ranges.contains (r ++ s) c = (r.contains c || s.contains c) :=
  List.any_append

end MarketQuery.Text
