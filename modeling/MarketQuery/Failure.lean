import MarketQuery.Binding
import MarketQuery.Table

/-!
# Failures of query functions

* `ArgumentFault`: a bound argument that a function does not take;
* `Failure`: why a call gives no answer; `Failure.kind`, `Failure.message`: its name and its text.
-/

namespace MarketQuery

/-- Why a function does not take an argument. -/
inductive ArgumentFault
  | unbound (cause : Unbound)
  | period (found : String)
  | adjustment (found : String)
  | date (name found : String)
  | other (text : String)
  deriving DecidableEq, Repr

def ArgumentFault.message : ArgumentFault → String
  | unbound cause => cause.message
  | period found =>
    "period must be one of 'daily', 'weekly', 'monthly', got '" ++ found ++ "'"
  | adjustment found => "adjust must be one of '', 'qfq', 'hfq', got '" ++ found ++ "'"
  | date name found => name ++ " must be a date like 20240101, got '" ++ found ++ "'"
  | other text => text

/-- Why a call gives no answer. -/
inductive Failure
  /-- The transfer broke off or never began. -/
  | transfer
  | status (code : Nat) (url : String)
  | decoding (source : String)
  | noData (subject : String)
  | argument (fault : ArgumentFault)
  | unavailable (reason : String)
  | shape (cause : Table.Error)
  deriving DecidableEq, Repr

namespace Failure

/-- The name of a failure. -/
def kind : Failure → String
  | transfer => "HttpError"
  | status .. => "StatusError"
  | decoding _ => "DecodeError"
  | noData _ => "NoDataError"
  | argument _ => "ValueError"
  | unavailable _ => "UnavailableError"
  | shape _ => "ShapeError"

def message : Failure → String
  | transfer => "HTTP request failed: "
  | status code url => "unexpected HTTP status " ++ Number.natText code ++ " from " ++ url
  | decoding source => "failed to decode response: " ++ source
  | noData subject => "no data returned for " ++ subject
  | argument fault => fault.message
  | unavailable reason => "provider unavailable: " ++ reason
  | shape cause => cause.message

end Failure

end MarketQuery
