import MarketQuery.Program
import MarketQuery.Proofs.Invocation.Parsing
import MarketQuery.Proofs.Query.Failures

/-!
# Which stage of a query fails

A query goes through stages. Faults of several of them may be there at once; each is told here on
its own, and the first in the order of the stages is the one that is reported.

* `Catalog.signature?`: the signature of a name, whatever the provider is;
* `Stage`, `Start`: the stages in their order, and what a query starts from;
* `Start.Ready`: what the call needs; `Start.Fails`: the fault of each stage;
* `Start.session`, `Start.log`, `Start.saidAt`: the session in which a query begins, what the log
  says in it, and what is said up to a failure;
* `Start.Passes`, `Start.FailsFirst`: no stage before this one fails, and this one does;
* `Start.Left`, `Start.Reported`: what a query and the program leave where a stage fails;
* `Ready.not_fails`, `passes_configuration`, …, `Ready.passes_save`: stages that are gone through;
* `Fails.unique`, `FailsFirst.iff_eq`: a stage has one fault, and one stage fails first.
-/

namespace MarketQuery

namespace Catalog

/-- The signature of a name. -/
def signature? (name : String) : Option Signature := signatures.find? (·.name == name)

theorem map_signature_resolve_registry (p : Provider) (name : String) :
    ((registry p).resolve name).map (·.signature) = signature? name := by
  rw [Query.map_signature_resolve, signatures_registry, signature?]

theorem signature?_of_resolve {p : Provider} {name : String} {f : QueryFunction}
    (h : (registry p).resolve name = some f) : signature? name = some f.signature := by
  rw [← map_signature_resolve_registry p, h]
  rfl

theorem signature?_of_resolve_eq_none {p : Provider} {name : String}
    (h : (registry p).resolve name = none) : signature? name = none := by
  rw [← map_signature_resolve_registry p, h]
  rfl

end Catalog

namespace Program

/-- The stages of a query, in their order. -/
inductive Stage
  | count
  | configuration
  | client
  | runtime
  | function
  | parameters
  | call
  | save
  deriving DecidableEq, Repr

/-- How many stages come before. -/
def Stage.rank : Stage → Nat
  | count => 0
  | configuration => 1
  | client => 2
  | runtime => 3
  | function => 4
  | parameters => 5
  | call => 6
  | save => 7

theorem Stage.eq_of_rank_eq {stage stage' : Stage} (h : stage.rank = stage'.rank) :
    stage = stage' := by
  cases stage <;> cases stage' <;> first | rfl | cases h

/-- What a query starts from. -/
structure Start where
  env : Config.Environment
  server : Server
  host : Host := {}
  files : FileSystem
  function : String
  tokens : List String

namespace Start

variable (q : Start)

/-- All that a call needs is there. -/
structure Ready (i : Invocation) (settings : Settings) (p : Provider) (f : QueryFunction)
    (bound : Bound) : Prop where
  counts : Invocation.ofTokens q.function q.tokens = .ok i
  configured : Config.load q.files q.env = .ok settings
  client : Provider.ofSettings q.server settings.provider = .ok p
  runtime : q.host.runtimeFault? = none
  found : (Catalog.registry p).resolve q.function = some f
  bound : f.signature.bind i.args = .ok bound

/-- The fault of a stage. Those before the call do not depend on each other, but for a client, which
needs settings, and for arguments, which are bound to the parameters of a function that there is. -/
inductive Fails : Stage → QueryError → Prop
  | count {cause : CountError} (h : Invocation.ofTokens q.function q.tokens = .error cause) :
      Fails .count (.count cause)
  | configuration {cause : Config.ConfigError} (h : Config.load q.files q.env = .error cause) :
      Fails .configuration (.unavailable ("configuration: " ++ cause.message))
  | client {settings : Settings} {reason : String} (hs : Config.load q.files q.env = .ok settings)
      (h : Provider.ofSettings q.server settings.provider = .error (.unavailable reason)) :
      Fails .client (.unavailable reason)
  | runtime {reason : String} (h : q.host.runtimeFault? = some reason) :
      Fails .runtime (.unavailable ("async runtime: " ++ reason))
  | function (h : Catalog.signature? q.function = none) :
      Fails .function (.unknownFunction q.function)
  | parameters {i : Invocation} {sig : Signature} {cause : BindError}
      (hi : Invocation.ofTokens q.function q.tokens = .ok i)
      (hf : Catalog.signature? q.function = some sig) (h : sig.bind i.args = .error cause) :
      Fails .parameters (.parameter cause)
  | call {i : Invocation} {settings : Settings} {p : Provider} {f : QueryFunction} {bound : Bound}
      {cause : Failure} (hr : q.Ready i settings p f bound)
      (h : (f.call bound).result = .error cause) : Fails .call (.invocation cause)
  | save {i : Invocation} {settings : Settings} {p : Provider} {f : QueryFunction} {bound : Bound}
      {t : Table} {path : String} {files : FileSystem} {cause : Csv.SaveError}
      (hr : q.Ready i settings p f bound) (ha : (f.call bound).result = .ok (.table t))
      (hp : i.save = some path)
      (h : Csv.save (i.truncate t) path q.files = (files, .error cause)) :
      Fails .save (.save path cause)

/-- No stage before this one fails. -/
def Passes (stage : Stage) : Prop :=
  ∀ earlier : Stage, earlier.rank < stage.rank → ∀ e, ¬ q.Fails earlier e

/-- The stage is the first that fails. -/
structure FailsFirst (stage : Stage) (e : QueryError) : Prop where
  fails : q.Fails stage e
  passes : q.Passes stage

/-- What is said first: nothing, unless the log cannot be started. -/
def warning : List String :=
  match q.host.startLog (LogConfig.ofEnvironment q.env) with
  | .ok _ => []
  | .error reason => ["warning: failed to initialise logging: " ++ reason]

/-- What the log says, if it can be started. -/
def log : Log :=
  match q.host.startLog (LogConfig.ofEnvironment q.env) with
  | .ok log => log
  | .error _ => .silent

/-- The session in which a query begins. -/
def session : Session := Session.said { files := q.files } q.warning

/-- The line about the call, where counts can be read and there is the function. -/
def callingLine? : Option String :=
  match Invocation.ofTokens q.function q.tokens, Catalog.signature? q.function with
  | .ok i, some sig => some ("calling: " ++ sig.echo i.args)
  | _, _ => none

/-- What is said before a stage: the line about the call comes once the function is found. -/
def saidBefore (stage : Stage) : List String :=
  q.warning ++ if Stage.function.rank < stage.rank then q.callingLine?.toList else []

/-- What is said where a stage fails with an error, and with what may help if the function is
unknown. -/
def saidAt (stage : Stage) (e : QueryError) : List String :=
  q.saidBefore stage ++ e.message :: if stage = .function then [QueryError.functionHint] else []

/-- What a query leaves whose first fault is in a stage. -/
structure Left (stage : Stage) (e : QueryError) (s : Session) : Prop where
  first : q.FailsFirst stage e
  out : s.out = {}
  err : s.err = { text := Query.ended (q.saidBefore stage) }
  written : s.written = Query.spoken (q.saidBefore stage)
  exchanges : stage.rank < Stage.call.rank → s.exchanges = []

/-- What the program leaves where a stage fails: nothing on standard output, and on the other stream
what is said, with the log ahead of each line and in the end. Before the call no server is asked. -/
structure Reported (stage : Stage) (e : QueryError) (o : Outcome) : Prop where
  stdout : o.stdout = ""
  stderr : o.stderr =
    String.join ((q.saidAt stage e).mapIdx fun n line => q.log n ++ (line ++ "\n")) ++
      q.log (q.saidAt stage e).length
  out : o.session.out.text = ""
  err : o.session.err.text = Query.ended (q.saidAt stage e)
  exchanges : stage.rank < Stage.call.rank → o.session.exchanges = []

variable {q} {i : Invocation} {settings : Settings} {p : Provider} {f : QueryFunction}
  {bound : Bound} {e : QueryError}

/-! ## Stages that do not fail -/

theorem Ready.unique {i' : Invocation} {settings' : Settings} {p' : Provider} {f' : QueryFunction}
    {bound' : Bound} (h : q.Ready i settings p f bound)
    (h' : q.Ready i' settings' p' f' bound') : i = i' ∧ f = f' ∧ bound = bound' := by
  obtain rfl := Except.ok.inj (h.counts.symm.trans h'.counts)
  obtain rfl := Except.ok.inj (h.configured.symm.trans h'.configured)
  obtain rfl := Except.ok.inj (h.client.symm.trans h'.client)
  obtain rfl := Option.some.inj (h.found.symm.trans h'.found)
  obtain rfl := Except.ok.inj (h.bound.symm.trans h'.bound)
  exact ⟨rfl, rfl, rfl⟩

theorem not_fails_count (hi : Invocation.ofTokens q.function q.tokens = .ok i) :
    ¬ q.Fails .count e := by
  intro hfails
  cases hfails with
  | count h => cases hi.symm.trans h

theorem not_fails_configuration (hs : Config.load q.files q.env = .ok settings) :
    ¬ q.Fails .configuration e := by
  intro hfails
  cases hfails with
  | configuration h => cases hs.symm.trans h

theorem not_fails_client (hs : Config.load q.files q.env = .ok settings)
    (hp : Provider.ofSettings q.server settings.provider = .ok p) : ¬ q.Fails .client e := by
  intro hfails
  cases hfails with
  | client hs' h =>
    obtain rfl := Except.ok.inj (hs.symm.trans hs')
    cases hp.symm.trans h

theorem not_fails_runtime (hn : q.host.runtimeFault? = none) : ¬ q.Fails .runtime e := by
  intro hfails
  cases hfails with
  | runtime h => cases hn.symm.trans h

theorem not_fails_function (hf : (Catalog.registry p).resolve q.function = some f) :
    ¬ q.Fails .function e := by
  intro hfails
  cases hfails with
  | function h => cases (Catalog.signature?_of_resolve hf).symm.trans h

theorem Ready.not_fails_parameters (hr : q.Ready i settings p f bound) :
    ¬ q.Fails .parameters e := by
  intro hfails
  cases hfails with
  | parameters hi hf h =>
    obtain rfl := Except.ok.inj (hr.counts.symm.trans hi)
    obtain rfl := Option.some.inj ((Catalog.signature?_of_resolve hr.found).symm.trans hf)
    cases hr.bound.symm.trans h

theorem Ready.not_fails_call (hr : q.Ready i settings p f bound) {answer : Answer}
    (ha : (f.call bound).result = .ok answer) : ¬ q.Fails .call e := by
  intro hfails
  cases hfails with
  | call hr' h =>
    obtain ⟨rfl, rfl, rfl⟩ := hr.unique hr'
    cases ha.symm.trans h

theorem Ready.not_fails_save (hr : q.Ready i settings p f bound) {answer : Answer}
    (ha : (f.call bound).result = .ok answer)
    (hs : ∀ t, answer = .table t → ∀ path, i.save = some path →
      ∃ files rows, Csv.save (i.truncate t) path q.files = (files, .ok rows)) :
    ¬ q.Fails .save e := by
  intro hfails
  cases hfails with
  | save hr' ha' hp h =>
    obtain ⟨rfl, rfl, rfl⟩ := hr.unique hr'
    obtain ⟨files, rows, hsave⟩ := hs _ (Except.ok.inj (ha.symm.trans ha')) _ hp
    cases hsave.symm.trans h

/-- Where the answer of the call is there and a table is saved that is to be, no stage fails. -/
theorem Ready.not_fails (hr : q.Ready i settings p f bound) {answer : Answer}
    (ha : (f.call bound).result = .ok answer)
    (hs : ∀ t, answer = .table t → ∀ path, i.save = some path →
      ∃ files rows, Csv.save (i.truncate t) path q.files = (files, .ok rows))
    (stage : Stage) (e : QueryError) : ¬ q.Fails stage e := by
  cases stage with
  | count => exact not_fails_count hr.counts
  | configuration => exact not_fails_configuration hr.configured
  | client => exact not_fails_client hr.configured hr.client
  | runtime => exact not_fails_runtime hr.runtime
  | function => exact not_fails_function hr.found
  | parameters => exact hr.not_fails_parameters
  | call => exact hr.not_fails_call ha
  | save => exact hr.not_fails_save ha hs

theorem passes_count : q.Passes .count := fun _ h => absurd h (Nat.not_lt_zero _)

theorem Passes.succ {stage next : Stage} (h : q.Passes stage) (hn : ∀ e, ¬ q.Fails stage e)
    (hr : next.rank = stage.rank + 1) : q.Passes next := by
  intro earlier hlt
  rcases Nat.lt_succ_iff_lt_or_eq.1 (hr ▸ hlt) with hlt | heq
  · exact h earlier hlt
  · exact Stage.eq_of_rank_eq heq ▸ hn

theorem passes_configuration (hi : Invocation.ofTokens q.function q.tokens = .ok i) :
    q.Passes .configuration :=
  passes_count.succ (fun _ => not_fails_count hi) rfl

theorem passes_client (hi : Invocation.ofTokens q.function q.tokens = .ok i)
    (hs : Config.load q.files q.env = .ok settings) : q.Passes .client :=
  (passes_configuration hi).succ (fun _ => not_fails_configuration hs) rfl

theorem passes_runtime (hi : Invocation.ofTokens q.function q.tokens = .ok i)
    (hs : Config.load q.files q.env = .ok settings)
    (hp : Provider.ofSettings q.server settings.provider = .ok p) : q.Passes .runtime :=
  (passes_client hi hs).succ (fun _ => not_fails_client hs hp) rfl

theorem passes_function (hi : Invocation.ofTokens q.function q.tokens = .ok i)
    (hs : Config.load q.files q.env = .ok settings)
    (hp : Provider.ofSettings q.server settings.provider = .ok p)
    (hn : q.host.runtimeFault? = none) : q.Passes .function :=
  (passes_runtime hi hs hp).succ (fun _ => not_fails_runtime hn) rfl

theorem passes_parameters (hi : Invocation.ofTokens q.function q.tokens = .ok i)
    (hs : Config.load q.files q.env = .ok settings)
    (hp : Provider.ofSettings q.server settings.provider = .ok p)
    (hn : q.host.runtimeFault? = none)
    (hf : (Catalog.registry p).resolve q.function = some f) : q.Passes .parameters :=
  (passes_function hi hs hp hn).succ (fun _ => not_fails_function hf) rfl

theorem Ready.passes_call (hr : q.Ready i settings p f bound) : q.Passes .call :=
  (passes_parameters hr.counts hr.configured hr.client hr.runtime hr.found).succ
    (fun _ => hr.not_fails_parameters) rfl

theorem Ready.passes_save (hr : q.Ready i settings p f bound) {answer : Answer}
    (ha : (f.call bound).result = .ok answer) : q.Passes .save :=
  hr.passes_call.succ (fun _ => hr.not_fails_call ha) rfl

/-! ## One fault in a stage -/

theorem Fails.unique {stage : Stage} {e e' : QueryError} (h : q.Fails stage e)
    (h' : q.Fails stage e') : e = e' := by
  cases h with
  | count h =>
    cases h' with
    | count h' => rw [Except.error.inj (h.symm.trans h')]
  | configuration h =>
    cases h' with
    | configuration h' => rw [Except.error.inj (h.symm.trans h')]
  | client hs h =>
    cases h' with
    | client hs' h' =>
      obtain rfl := Except.ok.inj (hs.symm.trans hs')
      rw [Failure.unavailable.inj (Except.error.inj (h.symm.trans h'))]
  | runtime h =>
    cases h' with
    | runtime h' => rw [Option.some.inj (h.symm.trans h')]
  | function h =>
    cases h' with
    | function => rfl
  | parameters hi hf h =>
    cases h' with
    | parameters hi' hf' h' =>
      obtain rfl := Except.ok.inj (hi.symm.trans hi')
      obtain rfl := Option.some.inj (hf.symm.trans hf')
      rw [Except.error.inj (h.symm.trans h')]
  | call hr h =>
    cases h' with
    | call hr' h' =>
      obtain ⟨rfl, rfl, rfl⟩ := hr.unique hr'
      rw [Except.error.inj (h.symm.trans h')]
  | save hr ha hp h =>
    cases h' with
    | save hr' ha' hp' h' =>
      obtain ⟨rfl, rfl, rfl⟩ := hr.unique hr'
      obtain rfl := Answer.table.inj (Except.ok.inj (ha.symm.trans ha'))
      obtain rfl := Option.some.inj (hp.symm.trans hp')
      rw [Except.error.inj (Prod.mk.inj (h.symm.trans h')).2]

theorem FailsFirst.iff_eq {stage stage' : Stage} {e e' : QueryError} (h : q.FailsFirst stage e) :
    q.FailsFirst stage' e' ↔ stage' = stage ∧ e' = e := by
  refine ⟨fun h' => ?_, fun h' => h'.1 ▸ h'.2 ▸ h⟩
  rcases Nat.lt_trichotomy stage.rank stage'.rank with hlt | heq | hlt
  · exact absurd h.fails (h'.passes _ hlt _)
  · obtain rfl := Stage.eq_of_rank_eq heq
    exact ⟨rfl, h'.fails.unique h.fails⟩
  · exact absurd h'.fails (h.passes _ hlt _)

end Start

end Program

end MarketQuery
