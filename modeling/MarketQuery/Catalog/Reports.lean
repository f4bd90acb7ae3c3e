import MarketQuery.Catalog.Record
import MarketQuery.Function
import MarketQuery.Provider

/-!
# Functions on the economy

* `consumerPrices`, `producerPrices`: the monthly price indices of China.
-/

namespace MarketQuery.Catalog

/-- The table of a report. -/
def requestReport (p : Provider) (name : String) (columns : List FieldColumn) : Call Answer := do
  let rows ← p.report name
  return .table (← Call.ofExcept ((recordTable columns rows).mapError .shape))

def consumerColumns : List FieldColumn :=
  [.text "月份" "TIME",
   .number "全国-当月" "NATIONAL_BASE",
   .number "全国-同比增长" "NATIONAL_SAME",
   .number "全国-环比增长" "NATIONAL_SEQUENTIAL",
   .number "全国-累计" "NATIONAL_ACCUMULATE",
   .number "城市-当月" "CITY_BASE",
   .number "城市-同比增长" "CITY_SAME",
   .number "城市-环比增长" "CITY_SEQUENTIAL",
   .number "城市-累计" "CITY_ACCUMULATE",
   .number "农村-当月" "RURAL_BASE",
   .number "农村-同比增长" "RURAL_SAME",
   .number "农村-环比增长" "RURAL_SEQUENTIAL",
   .number "农村-累计" "RURAL_ACCUMULATE"]

def consumerPricesSignature : Signature where
  name := "macro_china_cpi"
  summary := "China monthly consumer price index"
  params := []

/-- The index of consumer prices. -/
def consumerPrices (p : Provider) : QueryFunction where
  signature := consumerPricesSignature
  call _ := requestReport p "RPT_ECONOMY_CPI" consumerColumns

def producerColumns : List FieldColumn :=
  [.text "月份" "TIME",
   .number "当月" "BASE",
   .number "当月同比增长" "BASE_SAME",
   .number "累计" "BASE_ACCUMULATE"]

def producerPricesSignature : Signature where
  name := "macro_china_ppi"
  summary := "China monthly producer price index"
  params := []

/-- The index of producer prices. -/
def producerPrices (p : Provider) : QueryFunction where
  signature := producerPricesSignature
  call _ := requestReport p "RPT_ECONOMY_PPI" producerColumns

end MarketQuery.Catalog
