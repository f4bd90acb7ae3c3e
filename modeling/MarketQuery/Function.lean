import MarketQuery.Call

/-!
# Query functions

* `QueryFunction`: a signature and what a call with bound arguments does.
-/

namespace MarketQuery

/-- A function that can be called by its name. -/
structure QueryFunction where
  signature : Signature
  call : Bound → Call Answer

namespace QueryFunction

def name (f : QueryFunction) : String := f.signature.name

end QueryFunction

end MarketQuery
