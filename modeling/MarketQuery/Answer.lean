import MarketQuery.Table

/-!
# Answers

* `Series`: labelled cells in order, under an optional name;
* `Answer`: what a query function gives.
-/

namespace MarketQuery

/-- Labelled cells in order. -/
structure Series where
  name : Option String
  entries : List (String × Cell)
  deriving DecidableEq, Repr

/-- What a query function gives. -/
inductive Answer
  | table (t : Table)
  | series (s : Series)
  | scalar (c : Cell)
  | text (s : String)

end MarketQuery
