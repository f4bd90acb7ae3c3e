import MarketQuery.Call
import MarketQuery.Query.Error

/-!
# Sessions

* `Stream`: what was written to a stream, which may refuse all writing;
* `Session`: the two streams, the file system and what was asked of servers;
* `Action`: what may be done in a session, up to the first error; what was done before stays.
-/

namespace MarketQuery

/-- A stream with what was written to it. -/
structure Stream where
  text : String := ""
  /-- Why nothing can be written. -/
  refusal? : Option IoError := none
  deriving DecidableEq, Repr

/-- Writes to a stream. -/
def Stream.write (s : Stream) (text : String) : Except IoError Stream :=
  match s.refusal? with
  | some e => .error e
  | none => .ok { s with text := s.text ++ text }

/-- What a query works on. -/
structure Session where
  /-- Where answers go. -/
  out : Stream := {}
  /-- Where everything else that is said goes. -/
  err : Stream := {}
  files : FileSystem
  exchanges : List Exchange := []
  /-- What the standard streams got one after another, if answers go to the one and everything else
  that is said to the other. A file that is written may be one of them, too. -/
  written : List (StandardStream × String) := []

/-- What a standard stream got. -/
def Session.received (s : Session) (stream : StandardStream) : String :=
  String.join ((s.written.filter (·.1 = stream)).map (·.2))

/-- The session with files that were written. -/
def Session.stored (s : Session) (files : FileSystem) : Session :=
  { s with files, written := s.written ++ files.streamed.drop s.files.streamed.length }

/-- What may be done in a session. -/
abbrev Action := ExceptT QueryError (StateM Session)

namespace Action

/-- A result that may be an error. -/
def ofExcept {α : Type} (result : Except QueryError α) : Action α := fun s => (result, s)

/-- Writes a part of an answer. -/
def answer (text : String) : Action Unit := fun s =>
  match s.out.write text with
  | .ok out => (.ok (), { s with out, written := s.written ++ [(.output, text)] })
  | .error e => (.error (.stream e), s)

/-- Writes a line of an answer. -/
def answerLine (line : String) : Action Unit := answer (line ++ "\n")

/-- Writes a line about the work. -/
def sayLine (line : String) : Action Unit := fun s =>
  match s.err.write (line ++ "\n") with
  | .ok err => (.ok (), { s with err, written := s.written ++ [(.error, line ++ "\n")] })
  | .error e => (.error (.stream e), s)

/-- Makes a call. -/
def perform {α : Type} (call : Call α) : Action α := fun s =>
  (call.result.mapError .invocation, { s with exchanges := s.exchanges ++ call.exchanges })

/-- Saves a table and gives the count of its rows. -/
def saveTable (t : Table) (path : String) : Action Nat := fun s =>
  let (files, saved) := Csv.save t path s.files
  (saved.mapError (.save path), s.stored files)

end Action

end MarketQuery
