import MarketQuery.Call
import MarketQuery.Provider.Response
import MarketQuery.Settings
import MarketQuery.Text.Octets

/-!
# The provider of market data

* `Provider`: the addresses that are asked, how the program introduces itself, and what becomes of
  its requests; `Provider.ofSettings`: a provider, if the introduction may be sent;
* `Provider.get`: one request and the content of its reply;
* `Provider.PageSource`, `Provider.page`: data that comes in pages, and one page of it;
* `Provider.collect`, `Provider.collectAll`: pages asked for in turn until one is the last;
* `Provider.history`, `Provider.quote`, `Provider.listing`, `Provider.report`: the four kinds of
  data.
-/

namespace MarketQuery

/-- The addresses that are asked, how the program introduces itself, and what becomes of its
requests. -/
structure Provider where
  liveUrl : String
  historyUrl : String
  reportUrl : String
  agent : String
  server : Server

namespace Provider

open Json

/-- The character may stand in the value of a header. -/
def isHeaderChar (c : Char) : Bool := c = '\t' || (0x20 ≤ c.toNat && c.toNat ≠ 0x7F)

/-- An address without the slashes at its end. -/
def trimSlashes (url : String) : String :=
  .ofList (url.toList.reverse.dropWhile (· = '/')).reverse

/-- The provider with the given settings. -/
def ofSettings (server : Server) (s : ProviderSettings) : Except Failure Provider :=
  if s.userAgent.toList.all isHeaderChar then
    .ok {
      liveUrl := trimSlashes s.liveUrl
      historyUrl := trimSlashes s.historyUrl
      reportUrl := trimSlashes s.reportUrl
      agent := s.userAgent
      server }
  else .error (.unavailable "HTTP client: builder error")

/-! ## Requests -/

/-- The octets that come with a status; 204 says that there are none. -/
def octetsOf? (status : Nat) (body? : Option (List UInt8)) : Option (List UInt8) :=
  if status = 204 then some [] else body?

/-- The content of octets. -/
def decodeOctets? {α : Type} (decode : Tree → Option α) (octets : List UInt8) : Option α :=
  (Tree.read? (Text.ofOctets octets)).bind decode

/-- The content of a reply from an address. The status is looked at before the body. -/
def readReply {α : Type} (url : String) (decode : Tree → Option α) :
    Http.Reply → Except Failure α
  | .unreachable => .error .transfer
  | .broken => .error .transfer
  | .response status body? =>
    if 200 ≤ status ∧ status < 300 then
      match octetsOf? status body? with
      | none => .error .transfer
      | some octets =>
        match decodeOctets? decode octets with
        | some content => .ok content
        | none => .error (.decoding url)
    else .error (.status status url)

/-- One request, by its number from 0, and the content of its reply. The reply is the outcome of
sending it, redirects included. -/
def get {α : Type} (p : Provider) (number : Nat) (url : String)
    (parameters : List (String × String)) (decode : Tree → Option α) : Call α :=
  let request : Http.Request := { url, parameters, agent := p.agent }
  let reply := p.server number request
  ⟨[{ request, reply }], readReply url decode reply⟩

/-! ## Pages -/

/-- The most pages that are asked for. -/
def pageLimit : Nat := 500

/-- Data that comes in pages: how a page is asked for and read, and which is the last. -/
structure PageSource where
  url : String
  /-- The parameters that ask for a page, by its number from 1. -/
  parameters : Nat → List (String × String)
  /-- The field of a reply that holds the page. -/
  field : String
  /-- How many fields a reply gives at least when it comes as an array. -/
  required : Nat
  /-- The field of a page with the announced number. -/
  announced : String
  /-- The field of a page with the rows. -/
  rows : String
  /-- A page is the last one announced, by its number and the count of all rows so far. -/
  isLast : Nat → Nat → Page → Bool

/-- The page that a reply gives, none inside where there is nothing to give. -/
def PageSource.decode (s : PageSource) : Tree → Option (Option Page) :=
  content? s.field s.required (Page.ofTree? s.announced s.rows)

/-- A page, by its number from 1. -/
def page (p : Provider) (s : PageSource) (number : Nat) : Call (Option Page) :=
  p.get (number - 1) s.url (s.parameters number) s.decode

/-- The rows of at most `remaining` pages from the given number on, behind `rows`. The last page is
one that is not there, has no rows or is the last one announced. -/
def collect (p : Provider) (s : PageSource) :
    (remaining number : Nat) → List Object → Call (List Object)
  | 0, _, rows => pure rows
  | remaining + 1, number, rows => do
    match ← p.page s number with
    | none => pure rows
    | some page =>
      let rows := rows ++ page.rows
      if page.rows.isEmpty || s.isLast number rows.length page then pure rows
      else collect p s remaining (number + 1) rows

/-- The rows of all pages from the first. -/
def collectAll (p : Provider) (s : PageSource) : Call (List Object) := p.collect s pageLimit 1 []

/-! ## Histories -/

/-- What is asked of the history of a symbol. -/
structure HistoryRequest where
  /-- The identifier of the symbol. -/
  id : String
  /-- The number of the period that a bar covers. -/
  period : Nat := 101
  /-- The number of the way in which prices are adjusted. -/
  adjustment : Nat := 0
  first : String := "19700101"
  last : String := "20500101"
  deriving DecidableEq, Repr

/-- The parameters that ask for a history. -/
def HistoryRequest.parameters (r : HistoryRequest) : List (String × String) :=
  [("fields1", "f1,f2,f3,f4,f5,f6"),
   ("fields2", "f51,f52,f53,f54,f55,f56,f57,f58,f59,f60,f61"),
   ("ut", "7eea3edcaed734bea9cbfc24409ed989"),
   ("klt", Number.natText r.period),
   ("fqt", Number.natText r.adjustment),
   ("secid", r.id),
   ("beg", r.first),
   ("end", r.last)]

/-- The history of a symbol; one that is unknown has no bars. -/
def history (p : Provider) (r : HistoryRequest) : Call History := do
  let content ← p.get 0 (p.historyUrl ++ "/api/qt/stock/kline/get") r.parameters History.ofReply?
  return content.getD {}

/-! ## Quotes -/

/-- The parameters that ask for fields of a symbol. -/
def quoteParameters (id fields : String) : List (String × String) :=
  [("ut", "fa5fd1943c7b386f172d6893dbfba10b"),
   ("invt", "2"),
   ("fltt", "2"),
   ("fields", fields),
   ("secid", id)]

/-- The given fields of a symbol. -/
def quote (p : Provider) (id fields : String) : Call Object := do
  match ← p.get 0 (p.liveUrl ++ "/api/qt/stock/get") (quoteParameters id fields) quoteOfReply? with
  | some row => return row
  | none => Call.fail (.noData id)

/-! ## Listings -/

/-- The parameters that ask for a page of a listing. -/
def listingParameters (filter fields : String) (number : Nat) : List (String × String) :=
  [("pn", Number.natText number),
   ("pz", "100"),
   ("po", "1"),
   ("np", "1"),
   ("ut", "bd1d9ddb04089700cf9c27f6f7426281"),
   ("fltt", "2"),
   ("invt", "2"),
   ("fid", "f12"),
   ("fs", filter),
   ("fields", fields)]

/-- A listing with the given fields of all symbols that a filter lets through. -/
def listingSource (p : Provider) (filter fields : String) : PageSource where
  url := p.liveUrl ++ "/api/qt/clist/get"
  parameters := listingParameters filter fields
  field := "data"
  required := 1
  announced := "total"
  rows := "diff"
  isLast _ collected page := page.announced ≤ collected

/-- The rows of a listing. -/
def listing (p : Provider) (filter fields : String) : Call (List Object) :=
  p.collectAll (p.listingSource filter fields)

/-! ## Reports -/

/-- The parameters that ask for a page of a report, the latest rows first. -/
def reportParameters (name : String) (number : Nat) : List (String × String) :=
  [("columns", "ALL"),
   ("pageNumber", Number.natText number),
   ("pageSize", "500"),
   ("sortColumns", "REPORT_DATE"),
   ("sortTypes", "-1"),
   ("source", "WEB"),
   ("client", "WEB"),
   ("reportName", name)]

/-- A report of the given name. -/
def reportSource (p : Provider) (name : String) : PageSource where
  url := p.reportUrl ++ "/api/data/v1/get"
  parameters := reportParameters name
  field := "result"
  required := 0
  announced := "pages"
  rows := "data"
  isLast number _ page := page.announced ≤ number

/-- The rows of a report. -/
def report (p : Provider) (name : String) : Call (List Object) :=
  p.collectAll (p.reportSource name)

end Provider

end MarketQuery
