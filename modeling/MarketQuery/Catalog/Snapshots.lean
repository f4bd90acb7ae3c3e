import MarketQuery.Catalog.Histories
import MarketQuery.Catalog.Record

/-!
# Functions on the market as it is now

* `stockSnapshot`, `fundSnapshot`: the latest trade in all stocks, or in all exchange-traded funds;
* `stockFacts`: what is known of one stock.
-/

namespace MarketQuery.Catalog

/-- The table of all symbols that a filter lets through. -/
def requestListing (p : Provider) (filter : String) (columns : List FieldColumn)
    (table : List FieldColumn → List Json.Object → Except Table.Error Table) : Call Answer := do
  let rows ← p.listing filter (fieldList columns)
  return .table (← Call.ofExcept ((table columns rows).mapError .shape))

/-- The stocks of Shenzhen, Shanghai and Beijing. -/
def stockFilter : String := "m:0 t:6,m:0 t:80,m:1 t:2,m:1 t:23,m:0 t:81 s:2048"

def stockColumns : List FieldColumn :=
  [.text "代码" "f12",
   .text "名称" "f14",
   .number "最新价" "f2",
   .number "涨跌幅" "f3",
   .number "涨跌额" "f4",
   .number "成交量" "f5",
   .number "成交额" "f6",
   .number "振幅" "f7",
   .number "最高" "f15",
   .number "最低" "f16",
   .number "今开" "f17",
   .number "昨收" "f18",
   .number "量比" "f10",
   .number "换手率" "f8",
   .number "市盈率-动态" "f9",
   .number "市净率" "f23",
   .number "总市值" "f20",
   .number "流通市值" "f21",
   .number "涨速" "f22",
   .number "5分钟涨跌" "f11",
   .number "60日涨跌幅" "f24",
   .number "年初至今涨跌幅" "f25"]

def stockSnapshotSignature : Signature where
  name := "stock_zh_a_spot_em"
  summary := "A-share real-time snapshot of all listed stocks"
  params := []

/-- The latest trade in all stocks, numbered. -/
def stockSnapshot (p : Provider) : QueryFunction where
  signature := stockSnapshotSignature
  call _ := requestListing p stockFilter stockColumns numberedTable

/-- The funds that are traded like stocks. -/
def fundFilter : String := "b:MK0021,b:MK0022,b:MK0023,b:MK0024"

def fundColumns : List FieldColumn :=
  [.text "代码" "f12",
   .text "名称" "f14",
   .number "最新价" "f2",
   .number "涨跌额" "f4",
   .number "涨跌幅" "f3",
   .number "成交量" "f5",
   .number "成交额" "f6",
   .number "开盘价" "f17",
   .number "最高价" "f15",
   .number "最低价" "f16",
   .number "昨收" "f18",
   .number "换手率" "f8",
   .number "量比" "f10",
   .number "流通市值" "f21",
   .number "总市值" "f20"]

def fundSnapshotSignature : Signature where
  name := "fund_etf_spot_em"
  summary := "ETF real-time snapshot"
  params := []

/-- The latest trade in all funds. -/
def fundSnapshot (p : Provider) : QueryFunction where
  signature := fundSnapshotSignature
  call _ := requestListing p fundFilter fundColumns recordTable

def factColumns : List FieldColumn :=
  [.number "最新" "f43",
   .text "股票代码" "f57",
   .text "股票简称" "f58",
   .number "总股本" "f84",
   .number "流通股" "f85",
   .number "总市值" "f116",
   .number "流通市值" "f117",
   .text "行业" "f127",
   .number "上市时间" "f189"]

def stockFactsSignature : Signature where
  name := "stock_individual_info_em"
  summary := "Basic facts of a single stock (labelled series)"
  params := [{ name := "symbol", kind := .string }]

/-- What is known of one stock, under its symbol as it was given. -/
def stockFacts (p : Provider) : QueryFunction where
  signature := stockFactsSignature
  call b := do
    let symbol ← Call.ofExcept ((boundText b "symbol").mapError .argument)
    let record ← p.quote (securityId symbol) (fieldList factColumns)
    return .series (recordSeries symbol factColumns record)

end MarketQuery.Catalog
