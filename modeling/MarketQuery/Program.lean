import MarketQuery.Config
import MarketQuery.Logging
import MarketQuery.Query
import MarketQuery.Usage

/-!
# The program

* `CommandLine`: what the arguments of the program ask for;
* `Program.Host`: what the program needs from where it runs;
* `Program.query`: a query, from its tokens to its answer;
* `Program.run`: the whole program; `Program.Outcome`: its end, with the exit code and what the
  standard streams got.
-/

namespace MarketQuery

/-- What the arguments of the program ask for. -/
inductive CommandLine
  | usage
  | version
  | query (function : String) (tokens : List String)
  deriving DecidableEq, Repr

namespace CommandLine

/-- The first argument and those behind it. One `--` before or right behind the first argument does
not count. -/
def split : List String → Option String × List String
  | ["--"] => (none, [])
  | "--" :: first :: rest => (some first, rest)
  | first :: "--" :: rest => (some first, rest)
  | first :: rest => (some first, rest)
  | [] => (none, [])

/-- What arguments ask for. A flag that asks for help or for the version counts only in the first
place. -/
def ofArguments (arguments : List String) : CommandLine :=
  match split arguments with
  | (none, _) => usage
  | (some first, tokens) =>
    if first ∈ ["-h", "--help"] then usage
    else if first ∈ ["-V", "--version"] then version
    else query first tokens

end CommandLine

namespace Program

/-- The provider that a configuration asks for. -/
def provider (server : Server) (s : ProviderSettings) : Except QueryError Provider :=
  (Provider.ofSettings server s).mapError fun
    | .unavailable reason => .unavailable reason
    | e => .unavailable e.message

/-- The configuration from the files of a session. -/
def configuration (env : Config.Environment) : Action Settings := fun s =>
  let loaded := Config.load s.files env
  (loaded.mapError fun e => .unavailable ("configuration: " ++ e.message), s)

/-- What the program needs from where it runs. -/
structure Host where
  /-- Starts the log, or tells why it cannot be started. -/
  startLog : LogConfig → Except String Log := fun _ => .ok .silent
  /-- Why nothing can be run that waits for a server. -/
  runtimeFault? : Option String := none

/-- Makes ready for what waits for a server. -/
def runtime (host : Host) : Except QueryError Unit :=
  match host.runtimeFault? with
  | some reason => .error (.unavailable ("async runtime: " ++ reason))
  | none => .ok ()

/-- A query, from its tokens to its answer. -/
def query (env : Config.Environment) (server : Server) (host : Host) (function : String)
    (tokens : List String) : Action Unit := do
  let invocation ← Action.ofExcept ((Invocation.ofTokens function tokens).mapError .count)
  let settings ← configuration env
  let provider ← Action.ofExcept (provider server settings.provider)
  Action.ofExcept (runtime host)
  Query.run (Catalog.registry provider) settings.display invocation

/-- What is said about an error. -/
def report (e : QueryError) : Action Unit := do
  Action.sayLine e.message
  if let some hint := e.hint? then Action.sayLine hint

/-- The end of the program: its exit code, the session, and what the log said. -/
structure Outcome where
  code : Nat
  session : Session
  log : Log := .silent

namespace Outcome

/-- What standard output got. -/
def stdout (o : Outcome) : String := o.session.received .output

/-- What standard error got: what the program wrote to it, and what the log said between. -/
def stderr (o : Outcome) : String :=
  let texts := o.session.written.mapIdx fun n (stream, text) =>
    o.log n ++ if stream = .error then text else ""
  String.join texts ++ o.log o.session.written.length

end Outcome

/-- Runs a query; an error is said and gives the exit code 1. -/
def finish (work : Action Unit) (s : Session) (log : Log := .silent) : Outcome :=
  match work s with
  | (.ok (), s) => ⟨0, s, log⟩
  | (.error e, s) => ⟨1, (report e s).2, log⟩

/-- The whole program. Only a query starts the log. -/
def run (arguments : List String) (env : Config.Environment) (server : Server) (s : Session)
    (host : Host := {}) : Outcome :=
  match CommandLine.ofArguments arguments with
  | .usage => finish (Action.answer Usage.text) s
  | .version => finish (Action.answerLine Usage.versionLine) s
  | .query function tokens =>
    let query := query env server host function tokens
    match host.startLog (LogConfig.ofEnvironment env) with
    | .ok log => finish query s log
    | .error reason =>
      finish (do Action.sayLine ("warning: failed to initialise logging: " ++ reason); query) s

end Program

end MarketQuery
