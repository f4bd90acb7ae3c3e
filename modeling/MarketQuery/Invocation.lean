import MarketQuery.Arguments
import MarketQuery.Table

/-!
# Invocations

The tokens behind a function's name are taken from left to right. A flag takes the token after it,
whatever that is; of the others, those with an equals sign are arguments and the rest is ignored.

* `Invocation`: a function with its arguments, where to save and which rows to keep;
* `Flag`, `CountError`: the flags, and a count that is no integer;
* `Invocation.ofTokens`: the invocation that tokens ask for;
* `Invocation.truncate`: the rows of a table to keep.
-/

namespace MarketQuery

/-- The flags, each with a value. -/
inductive Flag
  | save
  | head
  | tail
  deriving DecidableEq, Repr

namespace Flag

def token : Flag → String
  | save => "--save"
  | head => "--head"
  | tail => "--tail"

def ofToken? (token : String) : Option Flag := [save, head, tail].find? (·.token == token)

end Flag

/-- A count that is no integer of 64 bits. -/
structure CountError where
  flag : Flag
  value : String
  deriving DecidableEq, Repr

def CountError.message (e : CountError) : String :=
  "invalid value for " ++ e.flag.token ++ ": '" ++ e.value ++ "'"

/-- The count that a flag's value asks for. -/
def readCount (flag : Flag) (value : String) : Except CountError Int64 :=
  match Number.readInt64? (Text.trimList value.toList) with
  | some n => .ok n
  | none => .error ⟨flag, value⟩

/-- The texts before and after the first equals sign. -/
def splitPair? (token : String) : Option (String × String) :=
  match token.toList.span (· ≠ '=') with
  | (key, _ :: raw) => some (.ofList key, .ofList raw)
  | (_, []) => none

/-- A function to call, with what is asked for around the call. -/
structure Invocation where
  function : String
  args : Arguments := ∅
  save : Option String := none
  head : Option Int64 := none
  tail : Option Int64 := none

namespace Invocation

/-- A flag with its value. -/
def setFlag (i : Invocation) (value : String) : Flag → Except CountError Invocation
  | .save => .ok { i with save := some value }
  | .head => do return { i with head := some (← readCount .head value) }
  | .tail => do return { i with tail := some (← readCount .tail value) }

/-- A token that is no flag with a value. -/
def addToken (i : Invocation) (token : String) : Invocation :=
  match splitPair? token with
  | some (key, raw) => { i with args := i.args.insert key raw }
  | none => i

/-- The remaining tokens. -/
def addTokens (i : Invocation) : List String → Except CountError Invocation
  | [] => .ok i
  | [token] => .ok (i.addToken token)
  | token :: next :: rest =>
    match Flag.ofToken? token with
    | some flag => do (← i.setFlag next flag).addTokens rest
    | none => (i.addToken token).addTokens (next :: rest)

/-- The invocation that a function's name and the tokens behind it ask for. -/
def ofTokens (function : String) (tokens : List String) : Except CountError Invocation :=
  addTokens { function } tokens

/-- The rows of a table to keep. A count of zero is like none, and the first rows go before the
last. -/
def truncate (i : Invocation) (t : Table) : Table :=
  let asked (n : Option Int64) := n.filter (· ≠ 0)
  match asked i.head, asked i.tail with
  | some n, _ => t.head n.toInt
  | none, some n => t.tail n.toInt
  | none, none => t

end Invocation

end MarketQuery
