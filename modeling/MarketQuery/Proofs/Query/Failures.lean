import MarketQuery.Proofs.Query.Outputs

/-!
# What a failed query leaves

* `callingLine`, `Calls`, `called`: a function is found, said to be called and its arguments are
  bound; the session behind the call;
* `Stops`: where a query stops, with the error and the session that it leaves; `stops_of_run`: a
  query that fails stops so;
* `CallsNothing`: no function is called and no server is asked; `callsNothing_of_unknown`,
  `callsNothing_of_refuses`, `callsNothing_of_unfit`: the failures before a call are such;
* `Withheld`: what an answer leaves that cannot be shown;
* **`left_of_run`**: what each failure leaves behind.
-/

namespace MarketQuery.Query

variable {r : Registry} {display : DisplaySettings} {i : Invocation} {s s' : Session}
  {e : QueryError}

/-- What is said before a call. -/
def callingLine (f : QueryFunction) (i : Invocation) : String :=
  "calling: " ++ f.signature.echo i.args

/-- The function is found, the call is said and the arguments are bound. -/
structure Calls (r : Registry) (i : Invocation) (s : Session) (f : QueryFunction) (bound : Bound) :
    Prop where
  found : r.resolve i.function = some f
  accepts : s.err.refusal? = none
  bound : f.signature.bind i.args = .ok bound

/-- The session behind a call. -/
def called (i : Invocation) (s : Session) (f : QueryFunction) (bound : Bound) : Session :=
  { s.said [callingLine f i] with
    exchanges := s.exchanges ++ (f.call bound).exchanges }

/-- Where a query stops, with the error and the session that it leaves. -/
inductive Stops (r : Registry) (i : Invocation) (s : Session) : QueryError → Session → Prop
  | unknownFunction (hf : r.resolve i.function = none) :
      Stops r i s (.unknownFunction i.function) s
  | calling {f : QueryFunction} {cause : IoError} (hf : r.resolve i.function = some f)
      (he : s.err.refusal? = some cause) : Stops r i s (.stream cause) s
  | parameter {f : QueryFunction} {cause : BindError} (hf : r.resolve i.function = some f)
      (he : s.err.refusal? = none) (hb : f.signature.bind i.args = .error cause) :
      Stops r i s (.parameter cause) (s.said [callingLine f i])
  | invocation {f : QueryFunction} {bound : Bound} {cause : Failure} (h : Calls r i s f bound)
      (ha : (f.call bound).result = .error cause) :
      Stops r i s (.invocation cause) (called i s f bound)
  | save {f : QueryFunction} {bound : Bound} {t : Table} {path : String} {files : FileSystem}
      {cause : Csv.SaveError} (h : Calls r i s f bound)
      (ha : (f.call bound).result = .ok (.table t)) (hp : i.save = some path)
      (hs : Csv.save (i.truncate t) path s.files = (files, .error cause)) :
      Stops r i s (.save path cause) ((called i s f bound).stored files)
  /-- A table is saved before it is shown. -/
  | table {f : QueryFunction} {bound : Bound} {t : Table} {files : FileSystem} {cause : IoError}
      (h : Calls r i s f bound) (ha : (f.call bound).result = .ok (.table t))
      (hs : Saves i.save (i.truncate t) s.files files) (ho : s.out.refusal? = some cause) :
      Stops r i s (.stream cause) ((called i s f bound).stored files |>.said
        (savedLine? i.save (i.truncate t)).toList)
  | other {f : QueryFunction} {bound : Bound} {answer : Answer} {cause : IoError}
      (h : Calls r i s f bound) (ha : (f.call bound).result = .ok answer)
      (hn : ∀ t, answer ≠ .table t) (ho : s.out.refusal? = some cause) :
      Stops r i s (.stream cause) (called i s f bound)

/-! ## Stages that fail -/

theorem saveIfAsked_eq_error {t : Table} (he : s.err.refusal? = none)
    (h : saveIfAsked i t s = (.error e, s')) :
    ∃ path files cause, i.save = some path ∧ Csv.save t path s.files = (files, .error cause) ∧
      e = .save path cause ∧ s' = s.stored files := by
  unfold saveIfAsked at h
  cases hp : i.save with
  | none =>
    rw [hp] at h
    cases (Prod.mk.inj h).1
  | some path =>
    rw [hp] at h
    rcases Action.bind_eq_error_iff.1 h with hs | ⟨rows, s₁, hs, hsay⟩
    · obtain ⟨files, cause, hsave, rfl, rfl⟩ := Action.saveTable_eq_error_iff.1 hs
      exact ⟨path, files, cause, rfl, hsave, rfl, rfl⟩
    · -- A stream that took the line about the call takes this one too.
      obtain ⟨files, -, rfl⟩ := Action.saveTable_eq_ok_iff.1 hs
      obtain ⟨cause, hr, -⟩ := Action.sayLine_eq_error_iff.1 hsay
      cases he.symm.trans hr

/-- A table that is not shown is not saved, or it is saved and only then refused. -/
theorem showTable_eq_error {t : Table} (he : s.err.refusal? = none)
    (h : showTable i display t s = (.error e, s')) :
    (∃ path files cause, i.save = some path ∧ Csv.save t path s.files = (files, .error cause) ∧
      e = .save path cause ∧ s' = s.stored files) ∨
    ∃ files cause, Saves i.save t s.files files ∧ s.out.refusal? = some cause ∧
      e = .stream cause ∧ s' = (s.stored files).said (savedLine? i.save t).toList := by
  rcases Action.bind_eq_error_iff.1 h with hs | ⟨_, s₁, hs, h⟩
  · exact .inl (saveIfAsked_eq_error he hs)
  · obtain ⟨files, hsaves, -, rfl⟩ := saves_of_saveIfAsked hs
    rcases Action.bind_eq_error_iff.1 h with ha | ⟨_, s₂, ha, hsay⟩
    · obtain ⟨cause, hr, rfl, rfl⟩ := Action.answerLine_eq_error_iff.1 ha
      exact .inr ⟨files, cause, hsaves, hr, rfl, rfl⟩
    · obtain ⟨-, rfl⟩ := Action.answerLine_eq_ok_iff.1 ha
      obtain ⟨cause, hr, -⟩ := Action.sayLine_eq_error_iff.1 hsay
      cases he.symm.trans hr

theorem stops_of_showAnswer {f : QueryFunction} {bound : Bound} {answer : Answer}
    (hc : Calls r i s f bound) (ha : (f.call bound).result = .ok answer)
    (h : showAnswer i display answer (called i s f bound) = (.error e, s')) :
    Stops r i s e s' := by
  cases answer with
  | table t =>
    rcases showTable_eq_error (s := called i s f bound) hc.accepts h with
      ⟨path, files, cause, hp, hsave, rfl, rfl⟩ | ⟨files, cause, hsaves, ho, rfl, rfl⟩
    · exact .save hc ha hp hsave
    · exact .table hc ha hsaves ho
  | series _ | scalar _ | text _ =>
    obtain ⟨cause, ho, rfl, rfl⟩ := Action.answerLine_eq_error_iff.1 h
    exact .other hc ha (by simp) ho

theorem resolve_eq_error_iff {name : String} :
    resolve r name = .error e ↔ r.resolve name = none ∧ e = .unknownFunction name := by
  unfold resolve
  cases r.resolve name <;> simp [eq_comm]

/-- A query that fails stops at one of these places. -/
theorem stops_of_run (h : run r display i s = (.error e, s')) : Stops r i s e s' := by
  rcases Action.bind_eq_error_iff.1 h with hstep | ⟨f, s₁, hstep, h⟩
  · obtain ⟨hr, rfl⟩ := Action.ofExcept_eq_error_iff.1 hstep
    obtain ⟨hf, rfl⟩ := resolve_eq_error_iff.1 hr
    exact .unknownFunction hf
  obtain ⟨hr, rfl⟩ := Action.ofExcept_eq_ok_iff.1 hstep
  have hf := resolve_eq_ok_iff.1 hr
  rcases Action.bind_eq_error_iff.1 h with hstep | ⟨_, s₂, hstep, h⟩
  · obtain ⟨cause, he, rfl, rfl⟩ := Action.sayLine_eq_error_iff.1 hstep
    exact .calling hf he
  obtain ⟨he, rfl⟩ := Action.sayLine_eq_ok_iff.1 hstep
  rcases Action.bind_eq_error_iff.1 h with hstep | ⟨bound, s₃, hstep, h⟩
  · obtain ⟨hparameter, rfl⟩ := Action.ofExcept_eq_error_iff.1 hstep
    obtain ⟨cause, hb, rfl⟩ := mapError_eq_error_iff.1 hparameter
    exact .parameter hf he hb
  obtain ⟨hparameter, rfl⟩ := Action.ofExcept_eq_ok_iff.1 hstep
  have hc : Calls r i s f bound := ⟨hf, he, mapError_eq_ok_iff.1 hparameter⟩
  rcases Action.bind_eq_error_iff.1 h with hstep | ⟨answer, s₄, hstep, h⟩
  · obtain ⟨cause, ha, rfl, rfl⟩ := Action.perform_eq_error_iff.1 hstep
    exact .invocation hc ha
  · obtain ⟨ha, rfl⟩ := Action.perform_eq_ok_iff.1 hstep
    exact stops_of_showAnswer hc ha h

/-! ## Queries that call nothing -/

/-- Nothing is called: whatever functions of the same signatures do, the query goes the same way,
and no server is asked. -/
structure CallsNothing (r : Registry) (display : DisplaySettings) (i : Invocation) (s : Session) :
    Prop where
  same : ∀ r' : Registry, r'.signatures = r.signatures → run r' display i s = run r display i s
  exchanges : (run r display i s).2.exchanges = s.exchanges

theorem map_signature_resolve (r : Registry) (name : String) :
    (r.resolve name).map (·.signature) = r.signatures.find? (·.name == name) := by
  rw [Registry.signatures, List.find?_map]
  rfl

theorem run_of_unknown (hf : r.resolve i.function = none) (display : DisplaySettings)
    (s : Session) : run r display i s = (.error (.unknownFunction i.function), s) :=
  Action.bind_of_error (Action.ofExcept_eq_error_iff.2 ⟨resolve_eq_error_iff.2 ⟨hf, rfl⟩, rfl⟩)

section Found

variable {f : QueryFunction} (hf : r.resolve i.function = some f) (display : DisplaySettings)
include hf

theorem run_of_refuses {cause : IoError} (he : s.err.refusal? = some cause) :
    run r display i s = (.error (.stream cause), s) := by
  rw [run, Action.bind_of_ok (Action.ofExcept_eq_ok_iff.2 ⟨resolve_eq_ok_iff.2 hf, rfl⟩)]
  exact Action.bind_of_error (Action.sayLine_of_refuses he _)

theorem run_of_unfit {cause : BindError} (he : s.err.refusal? = none)
    (hb : f.signature.bind i.args = .error cause) : run r display i s =
      (.error (.parameter cause), s.said [callingLine f i]) := by
  rw [run, Action.bind_of_ok (Action.ofExcept_eq_ok_iff.2 ⟨resolve_eq_ok_iff.2 hf, rfl⟩),
    Action.bind_of_ok (Action.sayLine_of_accepts he _)]
  exact Action.bind_of_error (Action.ofExcept_eq_error_iff.2
    ⟨mapError_eq_error_iff.2 ⟨cause, hb, rfl⟩, rfl⟩)

end Found

theorem exists_resolve_of_signatures {r' : Registry} (h : r'.signatures = r.signatures)
    {name : String} {f : QueryFunction} (hf : r.resolve name = some f) :
    ∃ f', r'.resolve name = some f' ∧ f'.signature = f.signature := by
  have hmap := map_signature_resolve r' name
  rw [h, ← map_signature_resolve, hf] at hmap
  exact Option.map_eq_some_iff.1 hmap

theorem resolve_eq_none_of_signatures {r' : Registry} (h : r'.signatures = r.signatures)
    {name : String} (hf : r.resolve name = none) : r'.resolve name = none := by
  have hmap := map_signature_resolve r' name
  rw [h, ← map_signature_resolve, hf] at hmap
  exact Option.map_eq_none_iff.1 hmap

theorem callsNothing_of_unknown (hf : r.resolve i.function = none) (display : DisplaySettings)
    (s : Session) : CallsNothing r display i s := by
  refine ⟨fun r' h => ?_, by rw [run_of_unknown hf]⟩
  rw [run_of_unknown hf, run_of_unknown (resolve_eq_none_of_signatures h hf)]

theorem callsNothing_of_refuses {cause : IoError} (he : s.err.refusal? = some cause)
    (r : Registry) (display : DisplaySettings) (i : Invocation) : CallsNothing r display i s := by
  cases hf : r.resolve i.function with
  | none => exact callsNothing_of_unknown hf display s
  | some f =>
    refine ⟨fun r' h => ?_, by rw [run_of_refuses hf display he]⟩
    obtain ⟨f', hf', -⟩ := exists_resolve_of_signatures h hf
    rw [run_of_refuses hf display he, run_of_refuses hf' display he]

theorem callsNothing_of_unfit {f : QueryFunction} {cause : BindError}
    (hf : r.resolve i.function = some f) (he : s.err.refusal? = none)
    (hb : f.signature.bind i.args = .error cause) (display : DisplaySettings) :
    CallsNothing r display i s := by
  refine ⟨fun r' h => ?_, by rw [run_of_unfit hf display he hb]; rfl⟩
  obtain ⟨f', hf', hs⟩ := exists_resolve_of_signatures h hf
  rw [run_of_unfit hf display he hb, run_of_unfit hf' display he (hs ▸ hb), callingLine, hs]
  rfl

/-! ## What is left -/

/-- What an answer leaves that cannot be shown: of a table the wanted rows in the file, if they were
to be saved, and what is said about it; of anything else nothing but the line about the call. -/
def Withheld (i : Invocation) (calling : String) (before after : Session) : Answer → Prop
  | .table t => Saves i.save (i.truncate t) before.files after.files ∧
    after.err.text = before.err.text ++
      ended (calling :: (savedLine? i.save (i.truncate t)).toList)
  | _ => after.files = before.files ∧ after.err.text = before.err.text ++ ended [calling]

theorem out_of_stops (h : Stops r i s e s') : s'.out = s.out := by
  cases h <;> rfl

theorem withheld_of_stops {cause : IoError} (he : s.err.refusal? = none)
    (h : Stops r i s (.stream cause) s') :
    s.out.refusal? = some cause ∧ ∃ f bound answer, Calls r i s f bound ∧
      (f.call bound).result = .ok answer ∧ Withheld i (callingLine f i) s s' answer := by
  cases h with
  | calling _ hr => cases he.symm.trans hr
  | @table f bound t files _ hc ha hs ho =>
    refine ⟨ho, f, bound, .table t, hc, ha, hs, ?_⟩
    simp [called, ended, String.append_assoc]
  | @other f bound answer _ hc ha hn ho =>
    refine ⟨ho, f, bound, answer, hc, ha, ?_⟩
    cases answer with
    | table t => exact absurd rfl (hn t)
    | series _ | scalar _ | text _ => exact ⟨rfl, by simp [called, ended]⟩

/-- **A query that fails leaves no answer behind**, and at each place only what was done before it.
Where nothing can be said about the work, nothing is called at all; where no answer can be shown,
a table that was to be saved is in its file, and this was said. -/
theorem left_of_run (r : Registry) (display : DisplaySettings) (i : Invocation) (s : Session) :
    (∀ e s', run r display i s = (.error e, s') →
      s'.out = s.out ∧
      (∀ name, e = .unknownFunction name → s' = s ∧ CallsNothing r display i s) ∧
      (∀ cause, e = .parameter cause → s'.files = s.files ∧ CallsNothing r display i s) ∧
      (∀ cause, e = .invocation cause → s'.files = s.files) ∧
      ∀ cause, e = .stream cause → s.err.refusal? = none →
        s.out.refusal? = some cause ∧ ∃ f bound answer, Calls r i s f bound ∧
          (f.call bound).result = .ok answer ∧ Withheld i (callingLine f i) s s' answer) ∧
    ∀ cause, s.err.refusal? = some cause → CallsNothing r display i s ∧
      (r.resolve i.function = none →
        run r display i s = (.error (.unknownFunction i.function), s)) ∧
      ∀ f, r.resolve i.function = some f → run r display i s = (.error (.stream cause), s) := by
  refine ⟨fun e s' h => ?_, fun cause he => ?_⟩
  · have hstops := stops_of_run h
    refine ⟨out_of_stops hstops, ?_, ?_, ?_, ?_⟩
    · rintro name rfl
      cases hstops with
      | unknownFunction hf => exact ⟨rfl, callsNothing_of_unknown hf display s⟩
    · rintro cause rfl
      cases hstops with
      | parameter hf he hb => exact ⟨rfl, callsNothing_of_unfit hf he hb display⟩
    · rintro cause rfl
      cases hstops with
      | invocation => rfl
    · rintro cause rfl he
      exact withheld_of_stops he hstops
  · exact ⟨callsNothing_of_refuses he r display i, fun hf => run_of_unknown hf display s,
      fun f hf => run_of_refuses hf display he⟩

theorem left_of_run_listShares :
    let i : Invocation :=
      { function := "shares", args := Arguments.insert ∅ "market" "all",
        save := some "out/shares.csv", head := some 1 }
    let s : Session := { out := { refusal? := some .noSpace }, files := .empty }
    ∃ s', run (Registry.register ∅ listShares) {} i s = (.error (.stream .noSpace), s') ∧
      s'.out = s.out ∧
      s'.err.text = "calling: shares(market=\"all\")\nsaved 1 rows to out/shares.csv\n" ∧
      Csv.Kept .empty s'.files "out/shares.csv" "\ufeffcode,name\n000001,PAB\n" := by
  intro i s
  let done := run (Registry.register ∅ listShares) {} i s
  have herror : done.1 = .error (.stream .noSpace) := by decide +kernel
  have h : run (Registry.register ∅ listShares) {} i s = (.error (.stream .noSpace), done.2) :=
    Prod.ext herror rfl
  obtain ⟨hout, -, -, -, hstream⟩ := (left_of_run _ _ _ _).1 _ _ h
  obtain ⟨-, f, bound, answer, hc, ha, hfiles⟩ := hstream _ rfl rfl
  obtain rfl : listShares = f := Option.some.inj (.trans (by rfl) hc.found)
  obtain rfl : Answer.table shares = answer := Except.ok.inj ha
  refine ⟨done.2, h, hout, ?_, ?_⟩
  · exact hfiles.2.trans (by decide +kernel)
  · exact hfiles.1

end MarketQuery.Query
