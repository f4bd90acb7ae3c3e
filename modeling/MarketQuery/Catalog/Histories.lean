import MarketQuery.Catalog.Bars
import MarketQuery.Function
import MarketQuery.Provider
import MarketQuery.Symbol

/-!
# Functions on histories

Each of them checks its arguments before it asks for anything: the period, the adjustment and the
two dates, in this order.

* `stockHistory`, `fundHistory`, `indexHistory`: the bars of a stock, a fund or an index.
-/

namespace MarketQuery.Catalog

/-- A bound text. -/
def boundText (b : Bound) (name : String) : Except ArgumentFault String :=
  (b.text name).mapError .unbound

/-- A bound text that is read further. -/
def boundAs {α : Type} (read : String → Except ArgumentFault α) (b : Bound) (name : String) :
    Except ArgumentFault α :=
  boundText b name >>= read

/-- A bound date. -/
def boundDate (b : Bound) (name : String) : Except ArgumentFault String :=
  boundAs (readDate name) b name

/-- The parameters of a history; `adjusted` is those of the adjustment. -/
def historyParams (lastDate : String) (adjusted : List Param) : List Param :=
  [{ name := "symbol", kind := .string },
   { name := "period", kind := .string, default? := some "daily" },
   { name := "start_date", kind := .string, default? := some "19700101" },
   { name := "end_date", kind := .string, default? := some lastDate }] ++ adjusted

/-- The parameters of a history with adjusted prices. -/
def adjustedParams : List Param :=
  historyParams "20500101" [{ name := "adjust", kind := .string, default? := some "" }]

/-- What to ask for the history of a security. -/
def securityRequest (b : Bound) : Except ArgumentFault Provider.HistoryRequest := do
  let symbol ← boundText b "symbol"
  let period ← boundAs Period.read b "period"
  let adjustment ← boundAs Adjustment.read b "adjust"
  let first ← boundDate b "start_date"
  let last ← boundDate b "end_date"
  return {
    id := securityId symbol
    period := period.code
    adjustment := adjustment.code
    first
    last }

/-- What to ask for the history of an index. -/
def indexRequest (b : Bound) : Except ArgumentFault Provider.HistoryRequest := do
  let symbol ← boundText b "symbol"
  let period ← boundAs Period.read b "period"
  let first ← boundDate b "start_date"
  let last ← boundDate b "end_date"
  return { id := indexId symbol, period := period.code, first, last }

/-- The table of the bars that a request gives. -/
def requestBars (p : Provider) (request : Except ArgumentFault Provider.HistoryRequest)
    (symbol? : Option (String × String)) : Call Answer := do
  let history ← p.history (← Call.ofExcept (request.mapError .argument))
  let table ← Call.ofExcept ((barTable symbol? history.lines).mapError .shape)
  return .table table

/-- The column that tells the symbol of a stock. -/
def stockColumn : String := "股票代码"

def stockHistorySignature : Signature where
  name := "stock_zh_a_hist"
  summary := "A-share daily/weekly/monthly bars"
  params := adjustedParams

/-- The bars of a stock, with a column that tells its symbol as it was given. -/
def stockHistory (p : Provider) : QueryFunction where
  signature := stockHistorySignature
  call b := requestBars p (securityRequest b) ((b.text "symbol").toOption.map (stockColumn, ·))

def fundHistorySignature : Signature where
  name := "fund_etf_hist_em"
  summary := "ETF daily/weekly/monthly bars"
  params := adjustedParams

/-- The bars of a fund. -/
def fundHistory (p : Provider) : QueryFunction where
  signature := fundHistorySignature
  call b := requestBars p (securityRequest b) none

def indexHistorySignature : Signature where
  name := "index_zh_a_hist"
  summary := "China index daily/weekly/monthly bars"
  params := historyParams "22220101" []

/-- The bars of an index. -/
def indexHistory (p : Provider) : QueryFunction where
  signature := indexHistorySignature
  call b := requestBars p (indexRequest b) none

end MarketQuery.Catalog
