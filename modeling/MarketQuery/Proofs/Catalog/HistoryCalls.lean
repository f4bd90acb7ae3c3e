import MarketQuery.Proofs.Catalog.BarRows
import MarketQuery.Proofs.Catalog.Failures
import MarketQuery.Proofs.Date.Spelling

/-!
# Calls for histories

A function on a history looks at its arguments first. If all of them are acceptable, it asks for the
bars, and only once.

* `HistoryFunction`, `HistoryArguments`, `Reads`: the three functions and the texts that they read,
  which are determined by the arguments (`Reads.unique`);
* `PeriodCode`, `AdjustmentCode`, `DateCode`: the texts that are acceptable, with what is sent for
  them;
* `Acceptable`, `FirstFault`: all texts are acceptable, or one is the first that is not;
* `within_readPeriod`, `within_readAdjustment`, `within_readDate`: each check finds its fault just
  in what is not acceptable; `HistoryArguments.within_request`: the checks of a call;
* `Asks`, `Outcome`: the request, and what the call comes to by the reply;
* **`HistoryFunction.call_checks_first`**: a call fails for the first fault, or asks once.
-/

namespace MarketQuery.Catalog

open Provider Text

/-! ## Texts of arguments -/

/-- The functions on histories. -/
inductive HistoryFunction
  | stock
  | fund
  | index
  deriving DecidableEq

/-- The texts of the arguments. There is no adjustment for an index. -/
@[ext]
structure HistoryArguments where
  symbol : String
  period : String
  adjust? : Option String
  first : String
  last : String

/-- The number that asks for a period. -/
inductive PeriodCode : String → String → Prop
  | daily : PeriodCode "daily" "101"
  | weekly : PeriodCode "weekly" "102"
  | monthly : PeriodCode "monthly" "103"

/-- The number that asks for an adjustment. -/
inductive AdjustmentCode : Option String → String → Prop
  | absent : AdjustmentCode none "0"
  | unadjusted : AdjustmentCode (some "") "0"
  | forward : AdjustmentCode (some "qfq") "1"
  | backward : AdjustmentCode (some "hfq") "2"

/-- The digits of the date that a text gives, whatever blanks are around it. -/
def DateCode (text code : String) : Prop :=
  ∃ date, Date.read? (trimList text.toList) = some date ∧ code = date.compact

namespace HistoryArguments

/-- All texts are acceptable. -/
structure Acceptable (x : HistoryArguments) : Prop where
  period : ∃ code, PeriodCode x.period code
  adjustment : ∃ code, AdjustmentCode x.adjust? code
  first : ∃ code, DateCode x.first code
  last : ∃ code, DateCode x.last code

/-- The fault of the first text that is not acceptable. -/
inductive FirstFault (x : HistoryArguments) : ArgumentFault → Prop
  | period (h : ¬ ∃ code, PeriodCode x.period code) : FirstFault x (.period x.period)
  | adjustment (hp : ∃ code, PeriodCode x.period code) {word : String} (hw : x.adjust? = some word)
      (h : ¬ ∃ code, AdjustmentCode (some word) code) : FirstFault x (.adjustment word)
  | first (hp : ∃ code, PeriodCode x.period code) (ha : ∃ code, AdjustmentCode x.adjust? code)
      (h : ¬ ∃ code, DateCode x.first code) :
      FirstFault x (.date "start_date" (trim x.first))
  | last (hp : ∃ code, PeriodCode x.period code) (ha : ∃ code, AdjustmentCode x.adjust? code)
      (hf : ∃ code, DateCode x.first code) (h : ¬ ∃ code, DateCode x.last code) :
      FirstFault x (.date "end_date" (trim x.last))

theorem FirstFault.not_acceptable {x : HistoryArguments} {fault : ArgumentFault}
    (h : x.FirstFault fault) : ¬ x.Acceptable := by
  intro hx
  cases h with
  | period h => exact h hx.period
  | adjustment _ hw h => exact h (hw ▸ hx.adjustment)
  | first _ _ h => exact h hx.first
  | last _ _ _ h => exact h hx.last

end HistoryArguments

/-! ## Functions -/

namespace HistoryFunction

/-- The function of the catalog. -/
def function (p : Provider) : HistoryFunction → QueryFunction
  | stock => stockHistory p
  | fund => fundHistory p
  | index => indexHistory p

/-- The signature, which is the same for all providers. -/
def signature : HistoryFunction → Signature
  | stock => stockHistorySignature
  | fund => fundHistorySignature
  | index => indexHistorySignature

/-- The identifier of a symbol. -/
def identify : HistoryFunction → String → String
  | index => indexId
  | _ => securityId

/-- The column that tells the symbol, for a stock. -/
def symbol? (symbol : String) : HistoryFunction → Option (String × String)
  | stock => some ("股票代码", symbol)
  | _ => none

/-- The bound arguments have these texts. -/
structure Reads (f : HistoryFunction) (b : Bound) (x : HistoryArguments) : Prop where
  symbol : b.text "symbol" = .ok x.symbol
  period : b.text "period" = .ok x.period
  first : b.text "start_date" = .ok x.first
  last : b.text "end_date" = .ok x.last
  unadjusted : f = .index → x.adjust? = none
  adjusted : f ≠ .index → ∃ word, x.adjust? = some word ∧ b.text "adjust" = .ok word

/-- The request for the bars that the texts mean. -/
structure Asks (f : HistoryFunction) (p : Provider) (x : HistoryArguments)
    (request : Http.Request) : Prop where
  url : request.url = p.historyUrl ++ "/api/qt/stock/kline/get"
  agent : request.agent = p.agent
  distinct : (request.parameters.map (·.1)).Nodup
  symbol : request.parameters.lookup "secid" = some (f.identify x.symbol)
  period : ∃ code, request.parameters.lookup "klt" = some code ∧ PeriodCode x.period code
  adjustment : ∃ code, request.parameters.lookup "fqt" = some code ∧ AdjustmentCode x.adjust? code
  first : ∃ code, request.parameters.lookup "beg" = some code ∧ DateCode x.first code
  last : ∃ code, request.parameters.lookup "end" = some code ∧ DateCode x.last code

/-- What a call comes to by the reply from an address: the failure of the reply, the table of the
bars that it brings, or a table without rows if it brings no data. -/
inductive Outcome (symbol? : Option (String × String)) (url : String) (reply : Http.Reply) :
    Except Failure Answer → Prop
  | failure {e : Failure} (h : Fails url GivesHistory reply e) :
      Outcome symbol? url reply (.error e)
  | bars {history : History} {t : Table} (h : Brings GivesHistory reply (some history))
      (hcolumns : t.columns = barColumns symbol?)
      (hrows : List.Forall₂ (IsBarRow symbol?) (history.lines.filter isWhole) t.rows) :
      Outcome symbol? url reply (.ok (.table t))
  | empty {t : Table} (h : Brings GivesHistory reply none)
      (hcolumns : t.columns = barColumns symbol?) (hrows : t.rows = []) :
      Outcome symbol? url reply (.ok (.table t))

end HistoryFunction

/-! ## Checks -/

/-- A check finds its fault just in what has no code. -/
def Refused (Code : String → Prop) (fault e : ArgumentFault) : Prop :=
  e = fault ∧ ¬ ∃ code, Code code

theorem within_of_refused {α : Type} {Code : String → Prop} {fault : ArgumentFault}
    {F : ArgumentFault → Prop} {G : α → Prop} {r : Except ArgumentFault α}
    (h : Within (Refused Code fault) G r) (hf : (¬ ∃ code, Code code) → F fault) :
    Within F G r := by
  refine h.mono ?_
  rintro _ ⟨rfl, hcode⟩
  exact hf hcode

theorem within_readPeriod (word : String) :
    Within (Refused (PeriodCode word) (.period word))
      (fun period => PeriodCode word (Number.natText period.code)) (Period.read word) := by
  unfold Period.read
  split
  · exact .daily
  · exact .weekly
  · exact .monthly
  · refine ⟨rfl, ?_⟩
    rintro ⟨code, h⟩
    cases h <;> contradiction

theorem within_readAdjustment (word : String) :
    Within (Refused (AdjustmentCode (some word)) (.adjustment word))
      (fun adjustment => AdjustmentCode (some word) (Number.natText adjustment.code))
      (Adjustment.read word) := by
  unfold Adjustment.read
  split
  · exact .unadjusted
  · exact .forward
  · exact .backward
  · refine ⟨rfl, ?_⟩
    rintro ⟨code, h⟩
    cases h <;> contradiction

theorem within_readDate (name text : String) :
    Within (Refused (DateCode text) (.date name (trim text))) (DateCode text)
      (readDate name text) := by
  rw [within_iff]
  refine ⟨fun fault h => ?_, fun date h => readDate_eq_ok_iff.1 h⟩
  obtain ⟨hnone, hfault⟩ := readDate_eq_error_iff.1 h
  refine ⟨hfault, ?_⟩
  rintro ⟨code, date, hdate, -⟩
  cases hnone.symm.trans hdate

namespace HistoryArguments

/-- The request has the codes of the texts. -/
structure Meant (x : HistoryArguments) (identify : String → String) (r : HistoryRequest) :
    Prop where
  symbol : r.id = identify x.symbol
  period : PeriodCode x.period (Number.natText r.period)
  adjustment : AdjustmentCode x.adjust? (Number.natText r.adjustment)
  first : DateCode x.first r.first
  last : DateCode x.last r.last

variable {x : HistoryArguments}

theorem Meant.acceptable {identify : String → String} {r : HistoryRequest}
    (h : x.Meant identify r) : x.Acceptable :=
  ⟨⟨_, h.period⟩, ⟨_, h.adjustment⟩, ⟨_, h.first⟩, ⟨_, h.last⟩⟩

/-- The checks of a call, in their order, and the request that they let through. -/
def request (x : HistoryArguments) (identify : String → String) :
    Except ArgumentFault HistoryRequest := do
  let period ← Period.read x.period
  let adjustment ← x.adjust?.elim (.ok .none) Adjustment.read
  let first ← readDate "start_date" x.first
  let last ← readDate "end_date" x.last
  return {
    id := identify x.symbol
    period := period.code
    adjustment := adjustment.code
    first
    last }

theorem within_adjustment? (hp : ∃ code, PeriodCode x.period code) :
    Within x.FirstFault
      (fun adjustment => AdjustmentCode x.adjust? (Number.natText adjustment.code))
      (x.adjust?.elim (.ok .none) Adjustment.read) := by
  cases hw : x.adjust? with
  | none => exact .absent
  | some word => exact within_of_refused (within_readAdjustment word) (.adjustment hp hw)

/-- The checks find the first fault, or let through what is meant. -/
theorem within_request (x : HistoryArguments) (identify : String → String) :
    Within x.FirstFault (x.Meant identify) (x.request identify) := by
  have hperiod : Within x.FirstFault
      (fun period => PeriodCode x.period (Number.natText period.code)) (Period.read x.period) :=
    within_of_refused (within_readPeriod x.period) .period
  refine hperiod.bind fun period hp => ?_
  refine (within_adjustment? ⟨_, hp⟩).bind fun adjustment ha => ?_
  have hfirst : Within x.FirstFault (DateCode x.first) (readDate "start_date" x.first) :=
    within_of_refused (within_readDate "start_date" x.first) (.first ⟨_, hp⟩ ⟨_, ha⟩)
  refine hfirst.bind fun first hf => ?_
  have hlast : Within x.FirstFault (DateCode x.last) (readDate "end_date" x.last) :=
    within_of_refused (within_readDate "end_date" x.last) (.last ⟨_, hp⟩ ⟨_, ha⟩ ⟨_, hf⟩)
  exact hlast.bind fun last hl => ⟨rfl, hp, ha, hf, hl⟩

end HistoryArguments

/-! ## Requests -/

/-- The request for a history. -/
def historyRequest (p : Provider) (r : HistoryRequest) : Http.Request where
  url := p.historyUrl ++ "/api/qt/stock/kline/get"
  parameters := r.parameters
  agent := p.agent

/-- The request for a history and how it ends. -/
def historyExchange (p : Provider) (r : HistoryRequest) : Exchange :=
  ⟨historyRequest p r, p.server 0 (historyRequest p r)⟩

section Requests

variable {p : Provider} {r : HistoryRequest} {symbol? : Option (String × String)}

theorem history_of_fails {e : Failure}
    (h : Fails (historyRequest p r).url GivesHistory (historyExchange p r).reply e) :
    p.history r = ⟨[historyExchange p r], .error e⟩ :=
  Call.bind_of_error (readReply_of_fails reads_ofReply h) _

theorem history_of_brings {content : Option History}
    (h : Brings GivesHistory (historyExchange p r).reply content) :
    p.history r = ⟨[historyExchange p r], .ok (content.getD {})⟩ :=
  Call.bind_of_ok (readReply_of_brings reads_ofReply h) _

theorem requestBars_of_error (p : Provider) (fault : ArgumentFault)
    (symbol? : Option (String × String)) :
    requestBars p (.error fault) symbol? = ⟨[], .error (.argument fault)⟩ := rfl

theorem requestBars_of_ok (p : Provider) (r : HistoryRequest)
    (symbol? : Option (String × String)) : requestBars p (.ok r) symbol? = do
      let history ← p.history r
      return .table (← Call.ofExcept ((barTable symbol? history.lines).mapError .shape)) := rfl

/-- The bars are asked for once. -/
theorem outcome_requestBars (p : Provider) (r : HistoryRequest)
    (h : ∀ symbol ∈ symbol?, symbol.1 ∉ barColumns none) :
    (requestBars p (.ok r) symbol?).exchanges = [historyExchange p r] ∧
      HistoryFunction.Outcome symbol? (historyRequest p r).url (historyExchange p r).reply
        (requestBars p (.ok r) symbol?).result := by
  rw [requestBars_of_ok]
  rcases fails_or_brings (historyRequest p r).url GivesHistory (historyExchange p r).reply with
    ⟨e, he⟩ | ⟨content, hcontent⟩
  · rw [history_of_fails he]
    exact ⟨rfl, .failure he⟩
  · obtain ⟨t, ht, hcolumns, hrows⟩ := exists_barRows h (content.getD {}).lines
    rw [history_of_brings hcontent, Call.bind_of_ok rfl, ht]
    refine ⟨rfl, ?_⟩
    cases content with
    | some history => exact .bars hcontent hcolumns hrows
    | none => exact .empty hcontent hcolumns (List.forall₂_nil_left_iff.1 hrows)

end Requests

/-! ## Calls -/

namespace HistoryFunction

variable {f : HistoryFunction} {p : Provider} {b : Bound} {x : HistoryArguments}

theorem signature_function (f : HistoryFunction) (p : Provider) :
    (f.function p).signature = f.signature := by
  cases f <;> rfl

theorem exists_reads {args : Arguments} (hb : f.signature.bind args = .ok b) :
    ∃ x, f.Reads b x := by
  obtain ⟨hn, hk⟩ := params_of_mem_signatures f.signature (by cases f <;> decide)
  have htext := Signature.exists_text_of_bind hb hn hk
  obtain ⟨symbol, hsymbol⟩ := htext "symbol" (by cases f <;> decide)
  obtain ⟨period, hperiod⟩ := htext "period" (by cases f <;> decide)
  obtain ⟨first, hfirst⟩ := htext "start_date" (by cases f <;> decide)
  obtain ⟨last, hlast⟩ := htext "end_date" (by cases f <;> decide)
  cases f with
  | stock | fund =>
    obtain ⟨word, hword⟩ := htext "adjust" (by decide)
    exact ⟨⟨symbol, period, some word, first, last⟩, hsymbol, hperiod, hfirst, hlast,
      fun h => absurd h (by decide), fun _ => ⟨word, rfl, hword⟩⟩
  | index =>
    exact ⟨⟨symbol, period, none, first, last⟩, hsymbol, hperiod, hfirst, hlast, fun _ => rfl,
      fun h => absurd rfl h⟩

theorem Reads.unique {y : HistoryArguments} (hx : f.Reads b x) (hy : f.Reads b y) : x = y := by
  have hadjust : x.adjust? = y.adjust? := by
    by_cases hf : f = .index
    · rw [hx.unadjusted hf, hy.unadjusted hf]
    · obtain ⟨word, hword, hadjust⟩ := hx.adjusted hf
      obtain ⟨word', hword', hadjust'⟩ := hy.adjusted hf
      rw [hword, hword', Except.ok.inj (hadjust.symm.trans hadjust')]
  exact HistoryArguments.ext (Except.ok.inj (hx.symbol.symm.trans hy.symbol))
    (Except.ok.inj (hx.period.symm.trans hy.period)) hadjust
    (Except.ok.inj (hx.first.symm.trans hy.first)) (Except.ok.inj (hx.last.symm.trans hy.last))

theorem boundText_eq {name text : String} (h : b.text name = .ok text) :
    boundText b name = .ok text := by
  rw [boundText, h]
  rfl

theorem boundAs_eq {α : Type} {read : String → Except ArgumentFault α} {name text : String}
    (h : b.text name = .ok text) : boundAs read b name = read text := by
  rw [boundAs, boundText_eq h]
  rfl

theorem Reads.securityRequest_eq (h : f.Reads b x) (hf : f ≠ .index) :
    securityRequest b = x.request securityId := by
  obtain ⟨word, hword, hadjust⟩ := h.adjusted hf
  simp only [securityRequest, boundDate, boundText_eq h.symbol, boundAs_eq h.period,
    boundAs_eq hadjust, boundAs_eq h.first, boundAs_eq h.last, HistoryArguments.request, hword]
  rfl

theorem Reads.indexRequest_eq (h : index.Reads b x) : indexRequest b = x.request indexId := by
  simp only [indexRequest, boundDate, boundText_eq h.symbol, boundAs_eq h.period,
    boundAs_eq h.first, boundAs_eq h.last, HistoryArguments.request, h.unadjusted rfl]
  rfl

theorem call_eq (h : f.Reads b x) : (f.function p).call b =
    requestBars p (x.request f.identify) (f.symbol? x.symbol) := by
  cases f with
  | stock =>
    change requestBars p (securityRequest b) ((b.text "symbol").toOption.map (stockColumn, ·)) = _
    rw [h.securityRequest_eq (by decide), h.symbol]
    rfl
  | fund => exact congrArg (requestBars p · none) (h.securityRequest_eq (by decide))
  | index => exact congrArg (requestBars p · none) h.indexRequest_eq

theorem symbol?_notMem (f : HistoryFunction) (symbol : String) :
    ∀ column ∈ f.symbol? symbol, column.1 ∉ barColumns none := by
  cases f with
  | stock =>
    rintro column ⟨⟩
    exact (by decide : "股票代码" ∉ barColumns none)
  | fund | index => nofun

theorem asks_of_meant {r : HistoryRequest} (h : x.Meant f.identify r) :
    f.Asks p x (historyRequest p r) where
  url := rfl
  agent := rfl
  distinct := by
    show ["fields1", "fields2", "ut", "klt", "fqt", "secid", "beg", "end"].Nodup
    decide
  symbol := congrArg some h.symbol
  period := ⟨_, rfl, h.period⟩
  adjustment := ⟨_, rfl, h.adjustment⟩
  first := ⟨_, rfl, h.first⟩
  last := ⟨_, rfl, h.last⟩

/-- **A call for a history checks its arguments before it asks.** If one of them is not acceptable,
the call fails for the first such, in the order of period, adjustment, first and last date, and asks
nothing. Else it asks once, for what the arguments mean, and comes to the failure of the reply or to
the table of its bars, which has all columns even if there are none. -/
theorem call_checks_first (f : HistoryFunction) (p : Provider) {args : Arguments} {b : Bound}
    (hb : (f.function p).signature.bind args = .ok b) :
    ∃ x, f.Reads b x ∧
      (¬ x.Acceptable → ∃ fault, x.FirstFault fault ∧
        (f.function p).call b = ⟨[], .error (.argument fault)⟩ ∧
        (Failure.argument fault).kind = "ValueError") ∧
      (x.Acceptable → ∃ request, f.Asks p x request ∧
        ((f.function p).call b).exchanges = [⟨request, p.server 0 request⟩] ∧
        Outcome (f.symbol? x.symbol) request.url (p.server 0 request)
          ((f.function p).call b).result) := by
  obtain ⟨x, hx⟩ := exists_reads (f.signature_function p ▸ hb)
  obtain ⟨hfault, hmeant⟩ := within_iff.1 (x.within_request f.identify)
  rw [call_eq hx]
  refine ⟨x, hx, fun h => ?_, fun h => ?_⟩
  · cases hrequest : x.request f.identify with
    | error fault => exact ⟨fault, hfault fault hrequest, requestBars_of_error .., rfl⟩
    | ok r => exact absurd (hmeant r hrequest).acceptable h
  · cases hrequest : x.request f.identify with
    | error fault => exact absurd h (hfault fault hrequest).not_acceptable
    | ok r =>
      obtain ⟨hexchanges, houtcome⟩ := outcome_requestBars p r (f.symbol?_notMem x.symbol)
      exact ⟨historyRequest p r, asks_of_meant (hmeant r hrequest), hexchanges, houtcome⟩

/-- The row of the bar that lacks no fields. -/
def shortBarRow : List Cell :=
  [.text "2024-01-03", .text "000001", .float (.ofInt 1), .float (.ofInt 2), .float (.ofInt 3),
    .float (.ofInt 4), .int 5, .float (.ofInt 6), .float (.ofInt 7), .float (.ofInt 8),
    .float (.ofInt 9), .float (.ofInt 10)]

theorem call_checks_first_shortBar :
    let f := stock.function shortBarProvider
    let x := HistoryArguments.mk "000001" "daily" (some "") "19700101" "20500101"
    let reply := Http.Reply.response 200 (some shortBarOctets)
    f.signature.bind (.ofList [("symbol", "000001")]) = .ok (historyBound "19700101") ∧
      x.Acceptable ∧ ∃ request, stock.Asks shortBarProvider x request ∧
        (f.call (historyBound "19700101")).exchanges = [⟨request, reply⟩] ∧
        Outcome (some ("股票代码", "000001")) request.url reply
          (f.call (historyBound "19700101")).result ∧
        ∃ t, (f.call (historyBound "19700101")).result = .ok (.table t) ∧
          t.columns = labels "stock_zh_a_hist" ∧ t.rows = [shortBarRow] := by
  intro f x reply
  have hb : f.signature.bind (.ofList [("symbol", "000001")]) = .ok (historyBound "19700101") := by
    decide +kernel
  have hx : stock.Reads (historyBound "19700101") x :=
    ⟨rfl, rfl, rfl, rfl, nofun, fun _ => ⟨"", rfl, rfl⟩⟩
  have hacceptable : x.Acceptable :=
    ⟨⟨_, .daily⟩, ⟨_, .unadjusted⟩, ⟨_, ⟨1970, 1, 1⟩, by decide +kernel, rfl⟩,
      ⟨_, ⟨2050, 1, 1⟩, by decide +kernel, rfl⟩⟩
  obtain ⟨y, hy, -, hasks⟩ := call_checks_first stock shortBarProvider hb
  obtain rfl := hx.unique hy
  obtain ⟨request, hrequest, hexchanges, houtcome⟩ := hasks hacceptable
  have hrows : (f.call (historyBound "19700101")).result.toOption.map
      (fun | .table t => t.rows | _ => []) = some [shortBarRow] := by decide +kernel
  have hbrings : Brings GivesHistory reply
      (some { lines := ["2024-01-02,1", "2024-01-03,1,2,3,4,5,6,7,8,9,10,11"] }) :=
    brings_of_octets reads_ofReply (by decide +kernel)
  refine ⟨hb, hacceptable, request, hrequest, hexchanges, houtcome, ?_⟩
  generalize (f.call (historyBound "19700101")).result = result at houtcome hrows
  cases houtcome with
  | failure h => exact absurd ⟨_, h⟩ (hbrings.not_fails reads_ofReply)
  | empty h => cases hbrings.unique reads_ofReply h
  | bars h hcolumns => exact ⟨_, rfl, hcolumns, Option.some.inj hrows⟩

end HistoryFunction

end MarketQuery.Catalog
