import MarketQuery.Text.Blank
import MarketQuery.Text.Case

/-!
# Symbols

A symbol is asked for under the number of its market, a point and its code. Shanghai has the number
1; Shenzhen and Beijing share the number 0.

* `Market`: the two numbers;
* `securityId`, `indexId`: the identifier of a security, or of an index, by its symbol.
-/

namespace MarketQuery

/-- The markets, as far as identifiers tell them apart. -/
inductive Market
  | shanghai
  | shenzhen
  deriving DecidableEq, Repr

namespace Market

/-- The number of a market. -/
def number : Market → Char
  | shanghai => '1'
  | shenzhen => '0'

/-- The identifier of a code in a market. -/
def identifier (market : Market) (code : List Char) : List Char := market.number :: '.' :: code

end Market

/-- The two letters that name a market before a code. -/
abbrev MarketPrefixes := List (List Char × Market)

/-- The letters that name a market before the code of an index. -/
def indexPrefixes : MarketPrefixes := [(['s', 'h'], .shanghai), (['s', 'z'], .shenzhen)]

/-- The letters that name a market before the code of a security. -/
def securityPrefixes : MarketPrefixes := indexPrefixes ++ [(['b', 'j'], .shenzhen)]

/-- The market that the letters before a code name, and the code. -/
def splitMarket? (prefixes : MarketPrefixes) (symbol : List Char) : Option (Market × List Char) :=
  prefixes.findSome? fun (letters, market) =>
    if letters.isPrefixOf symbol then some (market, symbol.drop letters.length) else none

/-- The identifier of a trimmed symbol: itself if it has a point, else by the letters before the
code, without regard to their case, or by the code. -/
def identify (prefixes : MarketPrefixes) (marketOf : List Char → Market) (symbol : List Char) :
    List Char :=
  if '.' ∈ symbol then symbol
  else
    match splitMarket? prefixes (Text.lowerList symbol) with
    | some (market, code) => market.identifier code
    | none => (marketOf symbol).identifier symbol

/-- The market of a security's code: codes in Shanghai start with 5, 6 or 9. -/
def securityMarket : List Char → Market
  | '5' :: _ | '6' :: _ | '9' :: _ => .shanghai
  | _ => .shenzhen

/-- The market of an index's code: codes in Shenzhen start with 399. -/
def indexMarket : List Char → Market
  | '3' :: '9' :: '9' :: _ => .shenzhen
  | _ => .shanghai

/-- The identifier of a security by its symbol. -/
def securityId (symbol : String) : String :=
  .ofList (identify securityPrefixes securityMarket (Text.trimList symbol.toList))

/-- The identifier of an index by its symbol. -/
def indexId (symbol : String) : String :=
  .ofList (identify indexPrefixes indexMarket (Text.trimList symbol.toList))

end MarketQuery
