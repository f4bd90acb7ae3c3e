/-!
# Settings

* `ProviderSettings`: where data is asked for and how;
* `DisplaySettings`: how answers are shown;
* `Settings`: both, each value with a default.
-/

namespace MarketQuery

/-- Where data is asked for and how. -/
structure ProviderSettings where
  /-- The address of the market as it is now. -/
  liveUrl : String := "https://push2.eastmoney.com"
  /-- The address of the market as it was. -/
  historyUrl : String := "https://push2his.eastmoney.com"
  /-- The address of reports on the economy. -/
  reportUrl : String := "https://datacenter-web.eastmoney.com"
  timeoutSeconds : Nat := 30
  /-- What a request says of the program that sends it. -/
  userAgent : String :=
    "Mozilla/5.0 (Windows NT 10.0; Win64; x64) AppleWebKit/537.36 (KHTML, like Gecko) " ++
      "Chrome/120.0.0.0 Safari/537.36"
  deriving DecidableEq, Repr

/-- How answers are shown. -/
structure DisplaySettings where
  /-- The most columns for the text of a cell; 0 is no limit. -/
  maxColumnWidth : Nat := 30
  deriving DecidableEq, Repr

/-- All settings. -/
structure Settings where
  provider : ProviderSettings := {}
  display : DisplaySettings := {}
  deriving DecidableEq, Repr

end MarketQuery
