import MarketQuery.Catalog

/-!
# How the program is used

* `Usage.text`: the synopsis, the options and the functions of the catalog;
* `Usage.versionLine`: the name of the program and its version.
-/

namespace MarketQuery.Usage

/-- The lines before the list of functions. -/
def introduction : List String :=
  ["akq - query financial data functions from the command line",
   "",
   "Usage:",
   "  akq <function_name> [key=value ...] [--save <path>] [--head <N>] [--tail <N>]",
   "  akq -h | --help",
   "  akq --version",
   "",
   "Options:",
   "  --save <path>   save a table result as CSV (UTF-8 with BOM)",
   "  --head <N>      keep the first N rows (takes precedence over --tail)",
   "  --tail <N>      keep the last N rows",
   "",
   "Values are converted automatically: true/false -> boolean, then integer,",
   "then float, otherwise string. String parameters receive the text as typed,",
   "so symbol=000001 keeps its leading zeros.",
   "",
   "Examples:",
   "  akq stock_zh_a_hist symbol=000001 period=daily start_date=20240101 " ++
     "end_date=20241231 adjust=qfq",
   "  akq stock_zh_a_spot_em --head 20",
   "  akq macro_china_cpi --save cpi_data.csv",
   "  akq fund_etf_spot_em --head 10",
   "",
   "Functions:"]

/-- The lines on a function. -/
def functionLines (s : Signature) : List String := ["  " ++ s.display, "      " ++ s.summary]

/-- The synopsis, the options and the functions. -/
def text : String :=
  String.join ((introduction ++ Catalog.signatures.flatMap functionLines).map (· ++ "\n"))

/-- The name of the program and its version. -/
def versionLine : String := "akq 0.1.0"

end MarketQuery.Usage
