import MarketQuery.Csv
import MarketQuery.Failure
import MarketQuery.Invocation

/-!
# Failed queries

* `QueryError`: at which stage a query fails, and why;
* `QueryError.message`, `QueryError.hint?`: what is said about it.
-/

namespace MarketQuery

/-- At which stage a query fails, and why. -/
inductive QueryError
  | count (cause : CountError)
  | unavailable (reason : String)
  | unknownFunction (name : String)
  | parameter (cause : BindError)
  | invocation (cause : Failure)
  | save (path : String) (cause : Csv.SaveError)
  | stream (cause : IoError)
  deriving DecidableEq, Repr

namespace QueryError

def message : QueryError → String
  | count cause => "error: " ++ cause.message
  | unavailable reason => "error: provider unavailable: " ++ reason
  | unknownFunction name => "error: function '" ++ name ++ "' not found in provider"
  | parameter cause => "parameter error: " ++ cause.message
  | invocation cause => "query failed: " ++ cause.kind ++ ": " ++ cause.message
  | save path cause => "error: failed to save " ++ path ++ ": " ++ cause.message
  | stream cause => "error: " ++ cause.message

/-- Where the names of functions are listed. -/
def functionHint : String :=
  "hint: check the function name, see https://akshare.akfamily.xyz/data/index.html"

/-- What may help against the error. -/
def hint? : QueryError → Option String
  | unknownFunction _ => some functionHint
  | _ => none

end QueryError

end MarketQuery
