import MarketQuery.Program
import MarketQuery.Proofs.Program.Stages
import MarketQuery.Proofs.Program.StandardOutput

/-!
# What the program reports

* `configuration_eq_ok_iff`, `configuration_eq_error_iff`, `provider_eq_error_iff`,
  `runtime_eq_error_iff`: the steps before a function is looked for; `report_of_accepts`: what is
  said about an error;
* `left_of_stops`, `left_of_query`: a query that fails does so at the first stage with a fault;
  `reported_of_left`: what the program makes of it;
* `shown_of_query`: a query that succeeds, and what it shows;
* `exists_run_eq_of_informs`, `run_of_query`: the program by its first argument;
* **`first_failure_reported`**: what the program reports, from its arguments to its exit code;
  `stdout_not_only_answer`: there may be more on standard output than the answer.
-/

namespace MarketQuery

namespace Program

/-! ## Steps of the program -/

section Steps

variable {env : Config.Environment} {server : Server} {s s' : Session} {settings : Settings}
  {p : Provider} {e : QueryError}

theorem configuration_eq_ok_iff : configuration env s = (.ok settings, s') ↔
    Config.load s.files env = .ok settings ∧ s = s' := by
  rw [configuration, Prod.mk.injEq, mapError_eq_ok_iff]

theorem configuration_eq_error_iff : configuration env s = (.error e, s') ↔
    ∃ cause, Config.load s.files env = .error cause ∧
      e = .unavailable ("configuration: " ++ cause.message) ∧ s = s' := by
  rw [configuration, Prod.mk.injEq, mapError_eq_error_iff]
  simp only [← and_assoc, exists_and_right]

theorem provider_eq_error_iff {settings : ProviderSettings} :
    provider server settings = .error e ↔
      ∃ reason, Provider.ofSettings server settings = .error (.unavailable reason) ∧
        e = .unavailable reason := by
  unfold provider Provider.ofSettings
  split
  · simp [Except.mapError]
  · simp [Except.mapError, eq_comm]

theorem runtime_eq_ok_iff {host : Host} : runtime host = .ok () ↔ host.runtimeFault? = none := by
  unfold runtime
  split <;> simp_all

theorem runtime_eq_error_iff {host : Host} : runtime host = .error e ↔
    ∃ reason, host.runtimeFault? = some reason ∧
      e = .unavailable ("async runtime: " ++ reason) := by
  unfold runtime
  split <;> simp_all [eq_comm]

theorem report_of_accepts (h : s.err.refusal? = none) :
    (report e s).2 = s.said (e.message :: e.hint?.toList) := by
  rw [report, Action.bind_of_ok (Action.sayLine_of_accepts h _)]
  cases hh : e.hint? with
  | none => rfl
  | some hint =>
    simp only [Action.sayLine_of_accepts (s := s.said _) h]
    rw [Session.said_said]
    rfl

end Steps

/-! ## Queries that fail -/

section Queries

variable {q : Start} {i : Invocation} {settings : Settings} {p : Provider} {f : QueryFunction}
  {s s' : Session} {e : QueryError}

theorem function_of_ofTokens (hi : Invocation.ofTokens q.function q.tokens = .ok i) :
    i.function = q.function :=
  (Invocation.asksFor_of_ofTokens hi).function

theorem written_stored_of_error {t : Table} {path : String} {files : FileSystem}
    {cause : Csv.SaveError} (h : Csv.save t path s.files = (files, .error cause)) :
    (s.stored files).written = s.written := by
  rw [Session.stored, Csv.streamed_of_save_error h, List.drop_length, List.append_nil]

/-- The line about the call is what is said before a stage behind it. -/
theorem said_callingLine {stage : Stage} (hstage : Stage.function.rank < stage.rank)
    (hi : Invocation.ofTokens q.function q.tokens = .ok i)
    (hf : (Catalog.registry p).resolve q.function = some f) :
    q.session.said [Query.callingLine f i] =
      Session.said { files := q.files } (q.saidBefore stage) := by
  rw [Start.session, Session.said_said, Start.saidBefore, if_pos hstage, Start.callingLine?, hi,
    Catalog.signature?_of_resolve hf]
  rfl

/-- The first stages say nothing. -/
theorem Start.FailsFirst.left {stage : Stage} (h : q.FailsFirst stage e)
    (hstage : stage.rank ≤ Stage.function.rank) : q.Left stage e q.session := by
  have hsaid : q.saidBefore stage = q.warning := by
    rw [Start.saidBefore, if_neg (Nat.not_lt.2 hstage), List.append_nil]
  refine ⟨h, rfl, ?_, ?_, fun _ => rfl⟩
  · rw [hsaid, Start.session, Session.said, String.empty_append]
  · rw [hsaid]
    rfl

/-- What was said before a stage that fails is left, whatever was asked of servers and whatever
files were changed, if no standard stream got anything by them. -/
theorem Start.FailsFirst.left_of_said {stage : Stage} (h : q.FailsFirst stage e)
    (hstage : Stage.function.rank < stage.rank)
    (hi : Invocation.ofTokens q.function q.tokens = .ok i)
    (hf : (Catalog.registry p).resolve q.function = some f)
    (hs : (q.session.said [Query.callingLine f i]).written = s.written)
    (herr : (q.session.said [Query.callingLine f i]).err = s.err) (hout : s.out = {})
    (hexchanges : stage.rank < Stage.call.rank → s.exchanges = []) : q.Left stage e s := by
  rw [said_callingLine hstage hi hf] at hs herr
  refine ⟨h, hout, ?_, ?_, hexchanges⟩
  · rw [← herr, Session.said, String.empty_append]
  · rw [← hs]
    rfl

theorem left_of_stops (hi : Invocation.ofTokens q.function q.tokens = .ok i)
    (hs : Config.load q.files q.env = .ok settings)
    (hp : Provider.ofSettings q.server settings.provider = .ok p)
    (hn : q.host.runtimeFault? = none)
    (h : Query.Stops (Catalog.registry p) i q.session e s') :
    ∃ stage, q.Left stage e s' := by
  have hfunction := function_of_ofTokens hi
  cases h with
  | unknownFunction hf =>
    rw [hfunction] at hf ⊢
    have hfirst : q.FailsFirst .function (.unknownFunction q.function) :=
      ⟨.function (Catalog.signature?_of_resolve_eq_none hf), Start.passes_function hi hs hp hn⟩
    exact ⟨.function, hfirst.left (by decide)⟩
  | parameter hf _ hb =>
    rw [hfunction] at hf
    have hfirst : q.FailsFirst .parameters _ :=
      ⟨.parameters hi (Catalog.signature?_of_resolve hf) hb,
        Start.passes_parameters hi hs hp hn hf⟩
    exact ⟨.parameters, hfirst.left_of_said (by decide) hi hf rfl rfl rfl fun _ => rfl⟩
  | @invocation f bound cause hc ha =>
    have hr : q.Ready i settings p f bound := ⟨hi, hs, hp, hn, hfunction ▸ hc.found, hc.bound⟩
    have hfirst : q.FailsFirst .call _ := ⟨.call hr ha, hr.passes_call⟩
    exact ⟨.call, hfirst.left_of_said (by decide) hi hr.found rfl rfl rfl
      fun h => absurd h (by decide)⟩
  | @save f bound t path files cause hc ha hpath hsave =>
    have hr : q.Ready i settings p f bound := ⟨hi, hs, hp, hn, hfunction ▸ hc.found, hc.bound⟩
    have hfirst : q.FailsFirst .save _ := ⟨.save hr ha hpath hsave, hr.passes_save ha⟩
    refine ⟨.save, hfirst.left_of_said (by decide) hi hr.found ?_ rfl rfl
      fun h => absurd h (by decide)⟩
    exact (written_stored_of_error (s := Query.called i q.session f bound) hsave).symm
  -- The streams that the program starts with take all that is written.
  | calling _ he => cases he
  | table _ _ _ ho => cases ho
  | other _ _ _ ho => cases ho

theorem left_of_query
    (h : query q.env q.server q.host q.function q.tokens q.session = (.error e, s')) :
    ∃ stage, q.Left stage e s' := by
  rcases Action.bind_eq_error_iff.1 h with hstep | ⟨i, s₁, hstep, h⟩
  · obtain ⟨hr, rfl⟩ := Action.ofExcept_eq_error_iff.1 hstep
    obtain ⟨cause, hi, rfl⟩ := mapError_eq_error_iff.1 hr
    exact ⟨.count, Start.FailsFirst.left ⟨.count hi, Start.passes_count⟩ (by decide)⟩
  obtain ⟨hr, rfl⟩ := Action.ofExcept_eq_ok_iff.1 hstep
  have hi := mapError_eq_ok_iff.1 hr
  rcases Action.bind_eq_error_iff.1 h with hstep | ⟨settings, s₁, hstep, h⟩
  · obtain ⟨cause, hs, rfl, rfl⟩ := configuration_eq_error_iff.1 hstep
    exact ⟨.configuration, Start.FailsFirst.left
      ⟨.configuration hs, Start.passes_configuration hi⟩ (by decide)⟩
  obtain ⟨hs, rfl⟩ := configuration_eq_ok_iff.1 hstep
  rcases Action.bind_eq_error_iff.1 h with hstep | ⟨p, s₁, hstep, h⟩
  · obtain ⟨hr, rfl⟩ := Action.ofExcept_eq_error_iff.1 hstep
    obtain ⟨reason, hp, rfl⟩ := provider_eq_error_iff.1 hr
    exact ⟨.client, Start.FailsFirst.left
      ⟨.client hs hp, Start.passes_client hi hs⟩ (by decide)⟩
  obtain ⟨hr, rfl⟩ := Action.ofExcept_eq_ok_iff.1 hstep
  have hp := mapError_eq_ok_iff.1 hr
  rcases Action.bind_eq_error_iff.1 h with hstep | ⟨_, s₁, hstep, h⟩
  · obtain ⟨hr, rfl⟩ := Action.ofExcept_eq_error_iff.1 hstep
    obtain ⟨reason, hn, rfl⟩ := runtime_eq_error_iff.1 hr
    exact ⟨.runtime, Start.FailsFirst.left
      ⟨.runtime hn, Start.passes_runtime hi hs hp⟩ (by decide)⟩
  obtain ⟨hr, rfl⟩ := Action.ofExcept_eq_ok_iff.1 hstep
  exact left_of_stops hi hs hp (runtime_eq_ok_iff.1 hr) (Query.stops_of_run h)

theorem hint?_of_fails {stage : Stage} (h : q.Fails stage e) :
    e.hint?.toList = if stage = .function then [QueryError.functionHint] else [] := by
  cases h <;> rfl

theorem saidAt_of_fails {stage : Stage} (h : q.Fails stage e) :
    q.saidAt stage e = q.saidBefore stage ++ e.message :: e.hint?.toList := by
  rw [Start.saidAt, hint?_of_fails h]

theorem received_of_spoken (lines : List String) (h : s.written = Query.spoken lines) :
    s.received .output = "" := by
  simp [Session.received, h, Query.spoken, List.filter_map, Function.comp_def]

theorem mapIdx_spoken (log : Log) (lines : List String) :
    (Query.spoken lines).mapIdx
        (fun n (stream, text) => log n ++ if stream = .error then text else "") =
      lines.mapIdx fun n line => log n ++ (line ++ "\n") := by
  refine List.ext_getElem? fun n => ?_
  simp [Query.spoken, Function.comp_def]

theorem reported_of_left {stage : Stage} (h : q.Left stage e s) :
    q.Reported stage e ⟨1, (report e s).2, q.log⟩ := by
  have haccepts : s.err.refusal? = none := by rw [h.err]
  rw [report_of_accepts haccepts]
  have hwritten : (s.said (e.message :: e.hint?.toList)).written =
      Query.spoken (q.saidAt stage e) := by
    rw [Session.written_said, h.written, saidAt_of_fails h.first.fails, Query.spoken, Query.spoken,
      Query.spoken, List.map_append]
  refine ⟨received_of_spoken _ hwritten, ?_, ?_, ?_, h.exchanges⟩
  · simp only [Outcome.stderr, hwritten, mapIdx_spoken]
    simp [Query.spoken]
  · rw [Session.out_said, h.out]
  · rw [Session.err_text_said, h.err, saidAt_of_fails h.first.fails, Query.ended_append]

/-! ## Queries that succeed -/

theorem shown_of_query
    (h : query q.env q.server q.host q.function q.tokens q.session = (.ok (), s')) :
    ∃ i settings p f bound answer, q.Ready i settings p f bound ∧
      (f.call bound).result = .ok answer ∧ (∀ stage e, ¬ q.Fails stage e) ∧
      Query.Shown i settings.display.maxColumnWidth q.files s'.files (s'.received .output)
        answer := by
  obtain ⟨i, s₁, hcounts, h⟩ := Action.bind_eq_ok_iff.1 h
  obtain ⟨settings, s₂, hconfigured, h⟩ := Action.bind_eq_ok_iff.1 h
  obtain ⟨p, s₃, hclient, h⟩ := Action.bind_eq_ok_iff.1 h
  obtain ⟨_, s₄, hruntime, h⟩ := Action.bind_eq_ok_iff.1 h
  obtain ⟨hi, rfl⟩ := Action.ofExcept_eq_ok_iff.1 hcounts
  obtain ⟨hs, rfl⟩ := configuration_eq_ok_iff.1 hconfigured
  obtain ⟨hp, rfl⟩ := Action.ofExcept_eq_ok_iff.1 hclient
  obtain ⟨hn, rfl⟩ := Action.ofExcept_eq_ok_iff.1 hruntime
  replace hi := mapError_eq_ok_iff.1 hi
  obtain ⟨f, bound, answer, hc, ha, hshow⟩ := Query.calls_of_run h
  have hr : q.Ready i settings p f bound := ⟨hi, hs, mapError_eq_ok_iff.1 hp,
    runtime_eq_ok_iff.1 hn, function_of_ofTokens hi ▸ hc.found, hc.bound⟩
  refine ⟨i, settings, p, f, bound, answer, hr, ha, hr.not_fails ha ?_, ?_⟩
  · rintro t rfl path hpath
    exact Query.saved_of_showAnswer hpath hshow
  · obtain ⟨text, htext, hshown⟩ := Query.shown_of_showAnswer hshow
    have hsaid : (Query.called i q.session f bound).received .output = "" :=
      received_of_spoken (q.warning ++ [Query.callingLine f i])
        (by simp [Query.called, Start.session, Query.spoken])
    rw [htext, hsaid, String.empty_append]
    exact hshown

end Queries

/-! ## The whole program -/

section Whole

variable {arguments : List String} {function : String} {tokens : List String}

theorem split_eq_of_notMem (h : "--" ∉ arguments.take 2) :
    CommandLine.split arguments = (arguments.head?, arguments.tail) := by
  unfold CommandLine.split
  split <;> simp_all

theorem ofArguments_of_informs
    (h : ∀ first ∈ (CommandLine.split arguments).1, first ∈ ["-h", "--help", "-V", "--version"]) :
    CommandLine.ofArguments arguments = .usage ∨ CommandLine.ofArguments arguments = .version := by
  unfold CommandLine.ofArguments
  split
  case h_1 => exact .inl rfl
  case h_2 first tokens hq =>
    rw [hq] at h
    have hfirst := h first rfl
    by_cases hhelp : first ∈ ["-h", "--help"]
    · exact .inl (if_pos hhelp)
    · have hversion : first ∈ ["-V", "--version"] := by
        simp only [List.mem_cons, List.not_mem_nil, or_false] at hfirst hhelp ⊢
        tauto
      exact .inr ((if_neg hhelp).trans (if_pos hversion))

theorem exists_run_eq_of_informs
    (h : ∀ first ∈ (CommandLine.split arguments).1, first ∈ ["-h", "--help", "-V", "--version"]) :
    ∃ out written, ∀ env server files host,
      run arguments env server { files } host = ⟨0, { files, out, written }, .silent⟩ := by
  rcases ofArguments_of_informs h with h | h
  · refine ⟨{ text := "" ++ Usage.text }, [(.output, Usage.text)], fun env server files host => ?_⟩
    rw [run, h]
    rfl
  · refine ⟨{ text := "" ++ (Usage.versionLine ++ "\n") }, [(.output, Usage.versionLine ++ "\n")],
      fun env server files host => ?_⟩
    rw [run, h]
    rfl

/-- Without a log, a line is said about it first. -/
theorem run_of_query (hq : CommandLine.split arguments = (some function, tokens))
    (hn : function ∉ ["-h", "--help", "-V", "--version"]) (env : Config.Environment)
    (server : Server) (host : Host) (files : FileSystem) :
    let q : Start := { env, server, host, files, function, tokens }
    run arguments env server { files } host =
      finish (query env server host function tokens) q.session q.log := by
  intro q
  have hquery : CommandLine.ofArguments arguments = .query function tokens := by
    simp only [List.mem_cons, List.not_mem_nil, or_false, not_or] at hn
    simp [CommandLine.ofArguments, hq, hn]
  rw [run, hquery]
  simp only [Start.session, Start.warning, Start.log, q]
  cases host.startLog (LogConfig.ofEnvironment env) with
  | ok log => rw [Session.said_nil]
  | error reason =>
    simp only [finish]
    rw [Action.bind_of_ok (Action.sayLine_of_accepts rfl _)]

/-- **The program reports the first fault in the order of the stages, and answers only where there
is none.** Where help or the version is asked for, it says so whatever the configuration, the files
and the server are. -/
theorem first_failure_reported (arguments : List String) :
    ("--" ∉ arguments.take 2 →
      CommandLine.split arguments = (arguments.head?, arguments.tail)) ∧
    ((∀ first ∈ (CommandLine.split arguments).1,
        first ∈ ["-h", "--help", "-V", "--version"]) →
      ∃ out written, ∀ env server files host,
        run arguments env server { files } host = ⟨0, { files, out, written }, .silent⟩) ∧
    ∀ function tokens, CommandLine.split arguments = (some function, tokens) →
      function ∉ ["-h", "--help", "-V", "--version"] → ∀ env server host files,
        let q : Start := { env, server, host, files, function, tokens }
        let o := run arguments env server { files } host
        (o.code = 0 ∨ o.code = 1) ∧
        (o.code = 1 → ∃ stage e,
          (∀ stage' e', q.FailsFirst stage' e' ↔ stage' = stage ∧ e' = e) ∧
          q.Reported stage e o) ∧
        (o.code = 0 → (∀ stage e, ¬ q.Fails stage e) ∧
          ∃ i settings p f bound answer, q.Ready i settings p f bound ∧
            (f.call bound).result = .ok answer ∧
            Query.Shown i settings.display.maxColumnWidth files o.session.files o.stdout
              answer) := by
  refine ⟨split_eq_of_notMem, exists_run_eq_of_informs, ?_⟩
  intro function tokens hq hn env server host files q o
  have ho : o = finish (query env server host function tokens) q.session q.log :=
    run_of_query hq hn env server host files
  rcases h : query env server host function tokens q.session with ⟨e | u, s⟩
  · have hcode : o = ⟨1, (report e s).2, q.log⟩ := by rw [ho, finish, h]
    obtain ⟨stage, hleft⟩ := left_of_query (q := q) h
    rw [hcode]
    exact ⟨.inr rfl, fun _ => ⟨stage, e, fun _ _ => hleft.first.iff_eq, reported_of_left hleft⟩,
      fun h => absurd h Nat.one_ne_zero⟩
  · have hcode : o = ⟨0, s, q.log⟩ := by rw [ho, finish, h]
    obtain ⟨i, settings, p, f, bound, answer, hr, ha, hnone, hshown⟩ := shown_of_query (q := q) h
    rw [hcode]
    exact ⟨.inl rfl, fun h => absurd h Nat.zero_ne_one,
      fun _ => ⟨hnone, i, settings, p, f, bound, answer, hr, ha, hshown⟩⟩

/-- A server that has nothing to give. -/
def emptyHanded : Server := fun _ _ =>
  .response 200 (some "\x7b\"data\":null\x7d".toUTF8.data.toList)

/-- A log that tells when it is started. -/
def logging : Host where
  startLog _ := .ok fun n => if n = 0 then "logging initialized\n" else ""

/-- A table without rows, as it is shown. -/
def emptyHistory : String :=
  "Empty DataFrame\nColumns: [日期, 股票代码, 开盘, 收盘, 最高, 最低, 成交量, 成交额, 振幅, " ++
    "涨跌幅, 涨跌额, 换手率]\nIndex: []"

/-- A setting of the wrong type is reported before a function that there is not. -/
theorem first_failure_reported_wideColumn :
    let env := [("AKQ__DISPLAY__MAX_COLWIDTH", "wide")]
    let q : Start := ⟨env, Server.offline, logging, .empty, "nope", ["a=1"]⟩
    let q' : Start := ⟨[], emptyHanded, logging, .empty, "stock_zh_a_hist", ["symbol=000001"]⟩
    let failed := run ["nope", "a=1"] env Server.offline { files := .empty } logging
    let shown := run ["stock_zh_a_hist", "symbol=000001"] [] emptyHanded { files := .empty } logging
    (∃ out written, ∀ env server files host,
      run ["--help", "a=1"] env server { files } host = ⟨0, { files, out, written }, .silent⟩) ∧
    failed.code = 1 ∧ q.Fails .function (.unknownFunction "nope") ∧
    q.Reported .configuration (.unavailable "configuration: invalid type for key display") failed ∧
    failed.stderr = "logging initialized\n" ++
      "error: provider unavailable: configuration: invalid type for key display\n" ∧
    shown.code = 0 ∧ (∀ stage e, ¬ q'.Fails stage e) ∧ shown.stdout = emptyHistory ++ "\n" := by
  intro env q q' failed shown
  have hhelp := (first_failure_reported ["--help", "a=1"]).2.1 (by rintro first ⟨⟩; decide)
  have hfailed : failed.code = 1 := by decide +kernel
  have hshown : shown.code = 0 := by decide +kernel
  obtain ⟨hsplit, -, hquery⟩ := first_failure_reported ["nope", "a=1"]
  obtain ⟨-, hreported, -⟩ :=
    hquery _ _ (hsplit (by decide)) (by decide) env Server.offline logging .empty
  obtain ⟨-, -, hquery'⟩ := first_failure_reported ["stock_zh_a_hist", "symbol=000001"]
  obtain ⟨-, -, hnone⟩ := hquery' _ _ rfl (by decide) [] emptyHanded logging .empty
  have hfirst : q.FailsFirst .configuration
      (.unavailable ("configuration: " ++ (Config.ConfigError.wrongType "display").message)) := by
    have hi : Invocation.ofTokens "nope" ["a=1"] =
        .ok { function := "nope", args := .ofList [("a", "1")] } := rfl
    have hload : Config.load .empty env = .error (.wrongType "display") := by decide +kernel
    exact ⟨.configuration hload, Start.passes_configuration hi⟩
  obtain ⟨stage, e, hiff, hr⟩ := hreported hfailed
  obtain ⟨rfl, rfl⟩ := (hiff _ _).1 hfirst
  refine ⟨hhelp, hfailed, .function (by decide), hr, ?_, hshown, (hnone hshown).1, ?_⟩
  · exact hr.stderr.trans (by decide +kernel)
  · decide +kernel

/-- Standard output gets the content of a table that is saved there before the table is shown, and
without a runtime the program fails where there is no other fault. -/
theorem stdout_not_only_answer :
    let saved := run ["stock_zh_a_hist", "symbol=000001", "--save", "/dev/stdout"] [] emptyHanded
      { files := .empty }
    let shown := run ["stock_zh_a_hist", "symbol=000001"] [] emptyHanded { files := .empty }
    let stuck := run ["stock_zh_a_hist", "symbol=000001"] [] emptyHanded { files := .empty }
      { runtimeFault? := some "Too many open files (os error 24)" }
    (saved.code = 0 ∧ saved.session.out.text = emptyHistory ++ "\n" ∧
      saved.stdout =
        "\ufeff日期,股票代码,开盘,收盘,最高,最低,成交量,成交额,振幅,涨跌幅,涨跌额,换手率\n" ++
          (emptyHistory ++ "\n") ∧
      saved.stdout ≠ emptyHistory ++ "\n") ∧
    shown.code = 0 ∧ stuck.code = 1 ∧ stuck.stderr =
      "error: provider unavailable: async runtime: Too many open files (os error 24)\n" := by
  decide +kernel

end Whole

end Program

end MarketQuery
