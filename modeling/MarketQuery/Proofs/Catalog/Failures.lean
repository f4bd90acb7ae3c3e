import MarketQuery.Proofs.Binding.Exact
import MarketQuery.Proofs.Catalog.Tables
import MarketQuery.Proofs.Provider.Reply

/-!
# How the functions of the catalog fail

* `Within`: a result is a failure of one kind or a value of another; `Within.bind`,
  `Call.within_bind`: so is one made of such;
* `Failure.OfReply`: the failures of a request; `within_collect`, `within_history`, `within_quote`,
  `within_listing`, `within_report`: no data fails otherwise, but for a symbol that is not there;
* `ArgumentFault.Misread`: an argument that is not understood; `exists_text_of_bind`: the arguments
  of a history are bound, so that this is the only fault of theirs;
* `Documented`, `labels`: the failures of a function and the columns or labels of its answers;
* **`call_within_documented`**: the functions fail and answer so, whatever the servers reply.
-/

namespace MarketQuery

/-! ## Results of two kinds -/

section Within

variable {ε ε' α β : Type} {F : ε → Prop} {G : α → Prop}

/-- A result is a failure of one kind, or a value of another. -/
def Within (F : ε → Prop) (G : α → Prop) : Except ε α → Prop
  | .error e => F e
  | .ok a => G a

theorem within_iff {r : Except ε α} :
    Within F G r ↔ (∀ e, r = .error e → F e) ∧ ∀ a, r = .ok a → G a := by
  cases r <;> simp [Within]

theorem Within.mono {F' : ε → Prop} {r : Except ε α} (h : Within F G r) (hf : ∀ e, F e → F' e) :
    Within F' G r := by
  cases r with
  | error e => exact hf e h
  | ok a => exact h

theorem Within.mapError {F' : ε' → Prop} {g : ε → ε'} {r : Except ε α} (h : Within F G r)
    (hf : ∀ e, F e → F' (g e)) : Within F' G (r.mapError g) := by
  cases r with
  | error e => exact hf e h
  | ok a => exact h

theorem Within.bind {H : β → Prop} {r : Except ε α} {f : α → Except ε β} (h : Within F G r)
    (hf : ∀ a, G a → Within F H (f a)) : Within F H (r >>= f) := by
  cases r with
  | error e => exact h
  | ok a => exact hf a h

theorem Call.within_bind {F : Failure → Prop} {H : β → Prop} {c : Call α} {f : α → Call β}
    (h : Within F G c.result) (hf : ∀ a, G a → Within F H (f a).result) :
    Within F H (c >>= f).result := by
  cases hc : c.result with
  | error e =>
    rw [hc] at h
    rw [Call.bind_of_error hc]
    exact h
  | ok a =>
    rw [hc] at h
    rw [Call.bind_of_ok hc]
    exact hf a h

end Within

/-! ## Data from servers -/

/-- The failures of a request. -/
inductive Failure.OfReply : Failure → Prop
  | transfer : OfReply .transfer
  | status (code : Nat) (url : String) : OfReply (.status code url)
  | decoding (source : String) : OfReply (.decoding source)

namespace Provider

open Json

variable (p : Provider)

theorem ofReply_of_fails {α : Type} {url : String} {Content : Tree → α → Prop}
    {reply : Http.Reply} {e : Failure} (h : Fails url Content reply e) : e.OfReply := by
  cases h with
  | unreachable | broken | incomplete => exact .transfer
  | status => exact .status ..
  | decoding => exact .decoding _

theorem within_get {α : Type} (number : Nat) (url : String) (parameters : List (String × String))
    (decode : Tree → Option α) :
    Within Failure.OfReply (fun _ => True) (p.get number url parameters decode).result := by
  have hreads : Reads decode fun tree a => decode tree = some a := fun _ _ => Iff.rfl
  exact within_iff.2 ⟨fun _ he => ofReply_of_fails ((readReply_eq_error_iff hreads).1 he),
    fun _ _ => trivial⟩

theorem within_collect (s : PageSource) (remaining number : Nat) (rows : List Object) :
    Within Failure.OfReply (fun _ => True) (p.collect s remaining number rows).result := by
  induction remaining generalizing number rows with
  | zero => trivial
  | succ remaining ih =>
    refine Call.within_bind (p.within_get ..) fun page? _ => ?_
    -- Behind a page the rows are all, or they are asked for with one page less to go.
    cases page? with
    | none => trivial
    | some page =>
      dsimp only
      split
      · trivial
      · exact ih ..

theorem within_listing (filter fields : String) :
    Within Failure.OfReply (fun _ => True) (p.listing filter fields).result :=
  p.within_collect ..

theorem within_report (name : String) :
    Within Failure.OfReply (fun _ => True) (p.report name).result :=
  p.within_collect ..

theorem within_history (r : HistoryRequest) :
    Within Failure.OfReply (fun _ => True) (p.history r).result :=
  Call.within_bind (p.within_get ..) fun _ _ => trivial

theorem within_quote (id fields : String) :
    Within (fun e => e.OfReply ∨ e = .noData id) (fun _ => True) (p.quote id fields).result := by
  refine Call.within_bind ((p.within_get ..).mono fun _ => .inl) fun row? _ => ?_
  cases row? with
  | none => exact .inr rfl
  | some row => trivial

end Provider

/-! ## Arguments -/

/-- An argument is none of the words that are known, or no date. -/
inductive ArgumentFault.Misread : ArgumentFault → Prop
  | period (found : String) : Misread (.period found)
  | adjustment (found : String) : Misread (.adjustment found)
  | date (name found : String) : Misread (.date name found)

open ArgumentFault

theorem Signature.exists_text_of_bind {s : Signature} {args : Arguments} {b : Bound}
    (h : s.bind args = .ok b) (hs : (s.params.map (·.name)).Nodup)
    (hk : ∀ p ∈ s.params, p.kind = .string) :
    ∀ name ∈ s.params.map (·.name), ∃ text, b.text name = .ok text := by
  intro name hname
  obtain ⟨p, hp, rfl⟩ := List.mem_map.1 hname
  obtain ⟨-, -, hfills⟩ := bind_eq_ok_iff.1 h
  obtain ⟨v, hget, hv⟩ := exists_get?_of_fills hs hfills hp
  have hfit : p.HasFitDefault := fun _ _ => hk p hp ▸ trivial
  have hkind : v.kind = .string := (Param.kind_of_fills hv hfit).trans (hk p hp)
  cases v with
  | text text => exact ⟨text, by simp [Bound.text, Bound.getOf, hget]⟩
  | int | float | bool => cases hkind

namespace Catalog

section Requests

variable {b : Bound} {name : String}

theorem within_boundText {F : ArgumentFault → Prop} (h : ∃ text, b.text name = .ok text) :
    Within F (fun _ => True) (boundText b name) := by
  obtain ⟨text, ht⟩ := h
  rw [boundText, ht]
  trivial

theorem within_period (h : ∃ text, b.text name = .ok text) :
    Within Misread (fun _ => True) (boundAs Period.read b name) := by
  refine (within_boundText h).bind fun word _ => ?_
  unfold Period.read
  split
  · trivial
  · trivial
  · trivial
  · exact .period word

theorem within_adjustment (h : ∃ text, b.text name = .ok text) :
    Within Misread (fun _ => True) (boundAs Adjustment.read b name) := by
  refine (within_boundText h).bind fun word _ => ?_
  unfold Adjustment.read
  split
  · trivial
  · trivial
  · trivial
  · exact .adjustment word

theorem within_date (h : ∃ text, b.text name = .ok text) :
    Within Misread (fun _ => True) (boundDate b name) := by
  refine (within_boundText h).bind fun text _ => ?_
  simp only [readDate]
  split
  · trivial
  · exact .date ..

theorem within_securityRequest
    (h : ∀ name ∈ adjustedParams.map (·.name), ∃ text, b.text name = .ok text) :
    Within Misread (fun _ => True) (securityRequest b) := by
  refine (within_boundText (h _ (by decide))).bind fun symbol _ => ?_
  refine (within_period (h _ (by decide))).bind fun period _ => ?_
  refine (within_adjustment (h _ (by decide))).bind fun adjustment _ => ?_
  refine (within_date (h _ (by decide))).bind fun first _ => ?_
  exact (within_date (h _ (by decide))).bind fun last _ => trivial

theorem within_indexRequest
    (h : ∀ name ∈ (historyParams "22220101" []).map (·.name), ∃ text, b.text name = .ok text) :
    Within Misread (fun _ => True) (indexRequest b) := by
  refine (within_boundText (h _ (by decide))).bind fun symbol _ => ?_
  refine (within_period (h _ (by decide))).bind fun period _ => ?_
  refine (within_date (h _ (by decide))).bind fun first _ => ?_
  exact (within_date (h _ (by decide))).bind fun last _ => trivial

end Requests

/-! ## Functions -/

/-- The functions on histories. -/
def histories : List String := ["stock_zh_a_hist", "fund_etf_hist_em", "index_zh_a_hist"]

/-- The failures of a function by its name. -/
inductive Documented (name : String) : Failure → Prop
  | reply {e : Failure} (h : e.OfReply) : Documented name e
  | noData (h : name = "stock_individual_info_em") (subject : String) :
      Documented name (.noData subject)
  | argument (h : name ∈ histories) {fault : ArgumentFault} (hf : fault.Misread) :
      Documented name (.argument fault)

/-- The columns of a function's tables, or the labels of its series, by its name. -/
def labels : String → List String
  | "stock_zh_a_hist" => dateColumn :: stockColumn :: barMeasures.map (·.1)
  | "fund_etf_hist_em" | "index_zh_a_hist" => dateColumn :: barMeasures.map (·.1)
  | "stock_zh_a_spot_em" => ordinalColumn :: stockColumns.map (·.name)
  | "fund_etf_spot_em" => fundColumns.map (·.name)
  | "stock_individual_info_em" => factColumns.map (·.name)
  | "macro_china_cpi" => consumerColumns.map (·.name)
  | "macro_china_ppi" => producerColumns.map (·.name)
  | _ => []

section Functions

variable (p : Provider)

theorem within_requestBars {request : Except ArgumentFault Provider.HistoryRequest}
    {symbol? : Option (String × String)} (hrequest : Within Misread (fun _ => True) request)
    (hc : (barColumns symbol?).Nodup) (name : String) (hname : name ∈ histories) :
    Within (Documented name) (Answer.Labelled (barColumns symbol?))
      (requestBars p request symbol?).result := by
  have hargument : Within (Documented name) (fun _ => True)
      (Call.ofExcept (request.mapError .argument)).result :=
    hrequest.mapError fun _ hf => .argument hname hf
  refine Call.within_bind hargument fun r _ => ?_
  refine Call.within_bind ((p.within_history r).mono fun _ => .reply) fun history _ => ?_
  obtain ⟨t, ht, hcolumns⟩ := exists_barTable hc history.lines
  rw [ht]
  exact .table hcolumns

theorem within_requestListing {filter : String} {columns : List FieldColumn}
    {table : List FieldColumn → List Json.Object → Except Table.Error Table}
    {shown : List String} (name : String)
    (h : ∀ rows, ∃ t, table columns rows = .ok t ∧ t.columns = shown) :
    Within (Documented name) (Answer.Labelled shown)
      (requestListing p filter columns table).result := by
  refine Call.within_bind ((p.within_listing ..).mono fun _ => .reply) fun rows _ => ?_
  obtain ⟨t, ht, hcolumns⟩ := h rows
  rw [ht]
  exact .table hcolumns

theorem within_requestReport {report : String} {columns : List FieldColumn} (name : String)
    (hc : (columns.map (·.name)).Nodup) :
    Within (Documented name) (Answer.Labelled (columns.map (·.name)))
      (requestReport p report columns).result := by
  refine Call.within_bind ((p.within_report ..).mono fun _ => .reply) fun rows _ => ?_
  obtain ⟨t, ht, hcolumns⟩ := exists_recordTable hc rows
  rw [ht]
  exact .table hcolumns

theorem within_stockHistory {b : Bound}
    (h : ∀ name ∈ adjustedParams.map (·.name), ∃ text, b.text name = .ok text) :
    Within (Documented "stock_zh_a_hist")
      (Answer.Labelled (dateColumn :: stockColumn :: barMeasures.map (·.1)))
      ((stockHistory p).call b).result := by
  obtain ⟨symbol, hsymbol⟩ := h "symbol" (by decide)
  have hc : (barColumns (some (stockColumn, symbol))).Nodup := by
    show (dateColumn :: stockColumn :: barMeasures.map (·.1)).Nodup
    decide
  have hbars := within_requestBars p (within_securityRequest h) hc "stock_zh_a_hist" (by decide)
  simp only [stockHistory, hsymbol]
  exact hbars

theorem within_stockFacts {b : Bound} (h : ∃ text, b.text "symbol" = .ok text) :
    Within (Documented "stock_individual_info_em") (Answer.Labelled (factColumns.map (·.name)))
      ((stockFacts p).call b).result := by
  have hargument : Within (Documented "stock_individual_info_em") (fun _ => True)
      (Call.ofExcept ((boundText b "symbol").mapError .argument)).result :=
    (within_boundText (F := fun _ => False) h).mapError fun _ => False.elim
  refine Call.within_bind hargument fun symbol _ => ?_
  have hquote : Within (Documented "stock_individual_info_em") (fun _ => True)
      (p.quote (securityId symbol) (fieldList factColumns)).result := by
    refine (p.within_quote ..).mono ?_
    rintro e (he | rfl)
    · exact .reply he
    · exact .noData rfl _
  exact Call.within_bind hquote fun record _ => labelled_recordSeries ..

end Functions

theorem params_of_mem_signatures : ∀ s ∈ signatures,
    (s.params.map (·.name)).Nodup ∧ ∀ p ∈ s.params, p.kind = .string := by
  decide

/-- **A function fails only as it documents**, for all arguments that its signature takes and
whatever the servers reply, and the columns or labels of its answers are always the same. So no
table is refused for its shape, and no argument turns out not to be bound. -/
theorem call_within_documented (p : Provider) {f : QueryFunction} (hf : f ∈ functions p)
    {args : Arguments} {b : Bound} (hb : f.signature.bind args = .ok b) :
    (∀ e, (f.call b).result = .error e → Documented f.name e) ∧
      ∀ a, (f.call b).result = .ok a → a.Labelled (labels f.name) := by
  have hs : f.signature ∈ signatures :=
    map_signature_functions p ▸ List.mem_map_of_mem hf
  obtain ⟨hn, hk⟩ := params_of_mem_signatures _ hs
  have htexts := Signature.exists_text_of_bind hb hn hk
  rw [← within_iff]
  simp only [functions, List.mem_cons, List.not_mem_nil, or_false] at hf
  rcases hf with rfl | rfl | rfl | rfl | rfl | rfl | rfl | rfl
  · exact within_requestBars p (within_securityRequest htexts) (by decide) "fund_etf_hist_em"
      (by decide)
  · exact within_requestListing p _ (exists_recordTable (by decide))
  · exact within_requestBars p (within_indexRequest htexts) (by decide) "index_zh_a_hist"
      (by decide)
  · exact within_requestReport p _ (by decide)
  · exact within_requestReport p _ (by decide)
  · exact within_stockFacts p (htexts "symbol" List.mem_cons_self)
  · exact within_stockHistory p htexts
  · exact within_requestListing p _ (exists_numberedTable (by decide))

/-- Octets that bring two bars, the first of which lacks fields. -/
def shortBarOctets : List UInt8 :=
  "\x7b\"data\":\x7b\"klines\":[\"2024-01-02,1\",".toUTF8.data.toList ++
    "\"2024-01-03,1,2,3,4,5,6,7,8,9,10,11\"]\x7d\x7d".toUTF8.data.toList

/-- A provider whose server answers with these bars. -/
def shortBarProvider : Provider where
  liveUrl := "http://live"
  historyUrl := "http://history"
  reportUrl := "http://report"
  agent := "agent"
  server _ _ := .response 200 (some shortBarOctets)

/-- The bound arguments of a stock's history from a date on. -/
def historyBound (first : String) : Bound :=
  ⟨[("symbol", .text "000001"), ("period", .text "daily"), ("start_date", .text first),
    ("end_date", .text "20500101"), ("adjust", .text "")]⟩

theorem call_within_documented_shortBar :
    let f := stockHistory shortBarProvider
    let fault := Failure.argument (.date "start_date" "x")
    f ∈ functions shortBarProvider ∧
    f.signature.bind (.ofList [("symbol", "000001"), ("start_date", "x")]) =
      .ok (historyBound "x") ∧
    (f.call (historyBound "x")).result = .error fault ∧ Documented "stock_zh_a_hist" fault ∧
    f.signature.bind (.ofList [("symbol", "000001")]) = .ok (historyBound "19700101") ∧
    ∃ t, (f.call (historyBound "19700101")).result = .ok (.table t) ∧ t.rows.length = 1 ∧
      t.columns = labels "stock_zh_a_hist" := by
  intro f fault
  have hf : f ∈ functions shortBarProvider := by simp [f, functions]
  have hx : f.signature.bind (.ofList [("symbol", "000001"), ("start_date", "x")]) =
      .ok (historyBound "x") := by decide +kernel
  have hfault : (f.call (historyBound "x")).result = .error fault := rfl
  have hb : f.signature.bind (.ofList [("symbol", "000001")]) = .ok (historyBound "19700101") := by
    decide +kernel
  have hrows : (f.call (historyBound "19700101")).result.toOption.map
      (fun | .table t => t.rows.length | _ => 0) = some 1 := by decide +kernel
  refine ⟨hf, hx, hfault, (call_within_documented _ hf hx).1 _ hfault, hb, ?_⟩
  cases h : (f.call (historyBound "19700101")).result with
  | error e => simp [h, Except.toOption] at hrows
  | ok a =>
    simp only [h, Except.toOption, Option.map_some, Option.some.injEq] at hrows
    cases (call_within_documented _ hf hb).2 a h with
    | table ht => exact ⟨_, rfl, hrows, ht⟩
    | series => cases hrows

end Catalog

end MarketQuery
