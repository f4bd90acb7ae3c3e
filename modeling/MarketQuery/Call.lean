import MarketQuery.Answer
import MarketQuery.Failure

/-!
# Calls and what they ask of servers

* `Http.Request`, `Http.Reply`: a question to a server and how it ends;
* `Server`: what becomes of each request of a session;
* `Call`: the exchanges of a call in their order, with its result; calls follow one another as long
  as none fails;
* `Call.arrived`: the requests that reached a server.
-/

namespace MarketQuery

namespace Http

/-- A question to a server. -/
structure Request where
  /-- The address without the parameters. -/
  url : String
  parameters : List (String × String)
  agent : String
  deriving DecidableEq, Repr

/-- How a request ends once it has been sent and redirects have been followed. -/
inductive Reply
  /-- No connection was made. -/
  | unreachable
  /-- The connection ended before a status came. -/
  | broken
  /-- A status came, and behind it a body, unless the connection ended before it was complete. -/
  | response (status : Nat) (body? : Option (List UInt8))
  deriving DecidableEq, Repr

end Http

/-- What becomes of each request of a session, by its number from 0. A reply is what sending the
request comes to, behind all redirects: they are no exchanges of their own. -/
abbrev Server := Nat → Http.Request → Http.Reply

/-- No connection can be made. -/
def Server.offline : Server := fun _ _ => .unreachable

/-- A request and how it ended. -/
structure Exchange where
  request : Http.Request
  reply : Http.Reply
  deriving DecidableEq, Repr

/-- The exchanges of a call, with its result. -/
structure Call (α : Type) where
  exchanges : List Exchange
  result : Except Failure α

namespace Call

variable {α β : Type}

/-- Continues a call that did not fail. -/
def andThen (c : Call α) (f : α → Call β) : Call β :=
  match c.result with
  | .error e => ⟨c.exchanges, .error e⟩
  | .ok a => ⟨c.exchanges ++ (f a).exchanges, (f a).result⟩

instance : Monad Call where
  pure a := ⟨[], .ok a⟩
  bind := andThen

/-- A result without an exchange. -/
def ofExcept (result : Except Failure α) : Call α := ⟨[], result⟩

def fail (e : Failure) : Call α := ⟨[], .error e⟩

/-- The requests that reached a server. -/
def arrived (c : Call α) : List Http.Request :=
  (c.exchanges.filter (·.reply ≠ .unreachable)).map (·.request)

theorem exchanges_pure (a : α) : (pure a : Call α).exchanges = [] := rfl

theorem result_pure (a : α) : (pure a : Call α).result = .ok a := rfl

theorem bind_of_error {c : Call α} {e : Failure} (h : c.result = .error e) (f : α → Call β) :
    c >>= f = ⟨c.exchanges, .error e⟩ := by
  show andThen c f = _
  simp [andThen, h]

theorem bind_of_ok {c : Call α} {a : α} (h : c.result = .ok a) (f : α → Call β) :
    c >>= f = ⟨c.exchanges ++ (f a).exchanges, (f a).result⟩ := by
  show andThen c f = _
  simp [andThen, h]

end Call

end MarketQuery
