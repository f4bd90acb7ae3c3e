import Mathlib.Data.Nat.Find
import Mathlib.Order.Bounds.Defs
import MarketQuery.Proofs.Provider.Reply

/-!
# Pages in turn

Whatever a server answers, pages are asked for by their numbers 1, 2, … up to the first reply that
ends them, or to page 500.

* `pageRequest`, `pageReply`: a page by its number; `GivesRows`, `RowsThrough`: the rows that a
  reply gives, and those of all replies up to one; `pageRows`, `rowsThrough`: the same, computed;
* `Ends`: the reply for a page ends them; `IsLastAsked`: no page behind it is asked for;
* `collect_of_ends`, `collect_of_not_ends`, `collect_run`: one page, and all pages before one;
* `collectAll_of_isLeast`: the exchanges and the result, by the last page asked for;
* `Trace`, `exists_trace`: what a call that asks for pages in turn does with any server;
* **`listing_report_trace`**: which pages of listings and reports are asked for, and what comes of
  them.
-/

namespace MarketQuery.Provider

open Json

section Pages

variable (p : Provider) (s : PageSource) (ends : Nat → Nat → Page → Prop)

/-- The request for a page. -/
def pageRequest (number : Nat) : Http.Request where
  url := s.url
  parameters := s.parameters number
  agent := p.agent

/-- The reply to the request for a page. -/
def pageReply (number : Nat) : Http.Reply := p.server (number - 1) (p.pageRequest s number)

/-- The exchange for a page. -/
def pageExchange (number : Nat) : Exchange := ⟨p.pageRequest s number, p.pageReply s number⟩

/-- The rows that a reply gives: those of the page that it brings, if it brings one. -/
inductive GivesRows (reply : Http.Reply) : List Object → Prop
  | page {page : Page} (h : Brings s.Gives reply (some page)) : GivesRows reply page.rows
  | nothing (h : Brings s.Gives reply none) : GivesRows reply []
  | failure {e : Failure} (h : Fails s.url s.Gives reply e) : GivesRows reply []

/-- The rows of all pages up to a number, in their order. -/
def RowsThrough (number : Nat) (rows : List Object) : Prop :=
  ∃ pages, List.Forall₂ (fun i => GivesRows s (p.pageReply s i)) (List.range' 1 number) pages ∧
    pages.flatten = rows

/-- The reply for a page ends the pages: it fails, has no page, or has a page without rows or the
last one announced. -/
def Ends (number : Nat) : Prop :=
  (∃ e, Fails s.url s.Gives (p.pageReply s number) e) ∨
    Brings s.Gives (p.pageReply s number) none ∨
    ∃ page rows, Brings s.Gives (p.pageReply s number) (some page) ∧
      p.RowsThrough s number rows ∧ (page.rows = [] ∨ ends number rows.length page)

/-- No page behind this one is asked for. -/
def IsLastAsked (number : Nat) : Prop := 1 ≤ number ∧ (p.Ends s ends number ∨ number = 500)

/-- The rows that the reply for a page gives, computed. -/
def pageRows (number : Nat) : List Object :=
  match readReply s.url s.decode (p.pageReply s number) with
  | .ok (some page) => page.rows
  | _ => []

/-- The rows of all pages up to a number, computed. -/
def rowsThrough (number : Nat) : List Object := (List.range' 1 number).flatMap (p.pageRows s)

/-- What all pages up to a number come to. -/
def outcome (number : Nat) : Except Failure (List Object) :=
  (readReply s.url s.decode (p.pageReply s number)).map fun _ => p.rowsThrough s number

theorem page_eq (number : Nat) : p.page s number =
    ⟨[p.pageExchange s number], readReply s.url s.decode (p.pageReply s number)⟩ := rfl

variable {p s ends}

theorem pageRows_of_brings {number : Nat} {page : Page}
    (h : Brings s.Gives (p.pageReply s number) (some page)) :
    p.pageRows s number = page.rows := by
  rw [pageRows, readReply_of_brings s.reads_decode h]

theorem givesRows_iff {number : Nat} {rows : List Object} :
    GivesRows s (p.pageReply s number) rows ↔ p.pageRows s number = rows := by
  constructor
  · intro h
    cases h with
    | page h => exact pageRows_of_brings h
    | nothing h => rw [pageRows, readReply_of_brings s.reads_decode h]
    | failure h => rw [pageRows, readReply_of_fails s.reads_decode h]
  · rintro rfl
    rcases fails_or_brings s.url s.Gives (p.pageReply s number) with ⟨e, he⟩ | ⟨page?, hb⟩
    · rw [pageRows, readReply_of_fails s.reads_decode he]
      exact .failure he
    · rw [pageRows, readReply_of_brings s.reads_decode hb]
      cases page? with
      | none => exact .nothing hb
      | some page => exact .page hb

theorem rowsThrough_iff {number : Nat} {rows : List Object} :
    p.RowsThrough s number rows ↔ p.rowsThrough s number = rows := by
  have hpages (pages : List (List Object)) :
      List.Forall₂ (fun i => GivesRows s (p.pageReply s i)) (List.range' 1 number) pages ↔
        (List.range' 1 number).map (p.pageRows s) = pages := by
    have heq (l : List (List Object)) : l = pages ↔ List.Forall₂ Eq l pages := by
      rw [List.forall₂_eq_eq_eq]
    rw [heq, List.forall₂_map_left_iff]
    exact ⟨fun h => h.imp fun _ _ => givesRows_iff.1, fun h => h.imp fun _ _ => givesRows_iff.2⟩
  simp only [RowsThrough, hpages, exists_eq_left', rowsThrough, List.flatMap_def]

theorem rowsThrough_succ (number : Nat) :
    p.rowsThrough s (number + 1) = p.rowsThrough s number ++ p.pageRows s (number + 1) := by
  rw [rowsThrough, List.range'_1_concat, List.flatMap_append, Nat.add_comm 1 number]
  simp [rowsThrough]

theorem ends_iff_of_brings {number : Nat} {page : Page}
    (h : Brings s.Gives (p.pageReply s number) (some page)) :
    p.Ends s ends number ↔
      page.rows = [] ∨ ends number (p.rowsThrough s number).length page := by
  constructor
  · rintro (hf | hn | ⟨page', rows, hb, hrows, hp⟩)
    · exact absurd hf (h.not_fails s.reads_decode)
    · cases h.unique s.reads_decode hn
    · cases h.unique s.reads_decode hb
      rwa [rowsThrough_iff.1 hrows]
  · exact fun hp => .inr (.inr ⟨page, _, h, rowsThrough_iff.2 rfl, hp⟩)

/-! ## One page -/

section Steps

variable (hends : ∀ number collected page, s.isLast number collected page = true ↔
  ends number collected page)
include hends

theorem collect_of_ends {number : Nat} (h : p.Ends s ends (number + 1)) (remaining : Nat) :
    p.collect s (remaining + 1) (number + 1) (p.rowsThrough s number) =
      ⟨[p.pageExchange s (number + 1)], p.outcome s (number + 1)⟩ := by
  rw [collect]
  cases hr : readReply s.url s.decode (p.pageReply s (number + 1)) with
  | error e =>
    rw [Call.bind_of_error (c := p.page s (number + 1)) hr, outcome, hr]
    rfl
  | ok page? =>
    rw [Call.bind_of_ok (c := p.page s (number + 1)) hr, outcome, hr, rowsThrough_succ, pageRows,
      hr]
    cases page? with
    | none => simp [page_eq, Call.exchanges_pure, Call.result_pure, Except.map]
    | some page =>
      have hstop : (page.rows.isEmpty || s.isLast (number + 1)
          (p.rowsThrough s number ++ page.rows).length page) = true := by
        have := (ends_iff_of_brings ((readReply_eq_ok_iff s.reads_decode).1 hr)).1 h
        rw [rowsThrough_succ, pageRows, hr] at this
        rw [Bool.or_eq_true, List.isEmpty_iff, hends]
        exact this
      simp only [hstop, if_true]
      simp [page_eq, Call.exchanges_pure, Call.result_pure, Except.map]

theorem collect_of_not_ends {number : Nat} (h : ¬ p.Ends s ends (number + 1)) (remaining : Nat) :
    p.collect s (remaining + 1) (number + 1) (p.rowsThrough s number) =
      let rest := p.collect s remaining (number + 2) (p.rowsThrough s (number + 1))
      ⟨p.pageExchange s (number + 1) :: rest.exchanges, rest.result⟩ := by
  rw [collect]
  rcases fails_or_brings s.url s.Gives (p.pageReply s (number + 1)) with hf | ⟨page?, hb⟩
  · exact absurd (.inl hf) h
  · cases page? with
    | none => exact absurd (.inr (.inl hb)) h
    | some page =>
      have hr : (p.page s (number + 1)).result = .ok (some page) :=
        readReply_of_brings s.reads_decode hb
      have hgo : (page.rows.isEmpty || s.isLast (number + 1)
          (p.rowsThrough s number ++ page.rows).length page) = false := by
        have := mt (ends_iff_of_brings hb).2 h
        rw [rowsThrough_succ, pageRows_of_brings hb] at this
        rw [← Bool.not_eq_true, Bool.or_eq_true, List.isEmpty_iff, hends]
        exact this
      rw [Call.bind_of_ok hr, rowsThrough_succ, pageRows_of_brings hb]
      simp only [hgo, page_eq]
      rfl

/-! ## All pages before one -/

theorem collect_run {number : Nat} (h : ∀ i, 1 ≤ i → i ≤ number → ¬ p.Ends s ends i)
    (remaining : Nat) :
    p.collect s (number + remaining) 1 [] =
      let rest := p.collect s remaining (number + 1) (p.rowsThrough s number)
      ⟨(List.range' 1 number).map (p.pageExchange s) ++ rest.exchanges, rest.result⟩ := by
  induction number generalizing remaining with
  | zero => simp [rowsThrough]
  | succ number ih =>
    have hstep := collect_of_not_ends hends (h (number + 1) (by omega) le_rfl) remaining
    rw [show number + 1 + remaining = number + (remaining + 1) by omega,
      ih (fun i h1 hi => h i h1 (by omega)), hstep]
    simp [List.range'_1_concat, Nat.add_comm 1 number]

theorem collectAll_of_isLeast {last : Nat} (h : IsLeast {i | p.IsLastAsked s ends i} last) :
    p.collectAll s = ⟨(List.range' 1 last).map (p.pageExchange s), p.outcome s last⟩ := by
  obtain ⟨⟨hpos, hlast⟩, hleast⟩ := h
  have hle : last ≤ 500 := hleast ⟨by omega, .inr rfl⟩
  obtain ⟨before, rfl⟩ : ∃ before, last = before + 1 := ⟨last - 1, by omega⟩
  have hbefore : ∀ i, 1 ≤ i → i ≤ before → ¬ p.Ends s ends i := fun i h1 hi he => by
    have := hleast ⟨h1, .inl he⟩
    omega
  have hrun := collect_run hends hbefore (500 - before)
  rw [show before + (500 - before) = pageLimit by unfold pageLimit; omega] at hrun
  rw [collectAll, hrun, List.range'_1_concat, Nat.add_comm 1 before, List.map_append]
  by_cases he : p.Ends s ends (before + 1)
  · rw [show 500 - before = 499 - before + 1 by omega, collect_of_ends hends he]
    rfl
  · -- Only the limit stops such a page, so no page is left to ask for behind it.
    obtain rfl : before = 499 := by
      rcases hlast with h | h
      · exact absurd h he
      · omega
    rw [show 500 - 499 = 0 + 1 from rfl, collect_of_not_ends hends he]
    rcases fails_or_brings s.url s.Gives (p.pageReply s (499 + 1)) with hf | ⟨page?, hb⟩
    · exact absurd (.inl hf) he
    · have hr : readReply s.url s.decode (p.pageReply s (499 + 1)) = .ok page? :=
        readReply_of_brings s.reads_decode hb
      simp [collect, outcome, hr, Call.exchanges_pure, Call.result_pure, Except.map]

end Steps

variable (p s ends) in
theorem exists_isLeast_isLastAsked : ∃ last, IsLeast {i | p.IsLastAsked s ends i} last := by
  classical
  have h : ∃ i, p.IsLastAsked s ends i := ⟨500, by omega, .inr rfl⟩
  exact ⟨Nat.find h, Nat.find_spec h, fun i hi => Nat.find_min' h hi⟩

/-! ## Replies that are not asked for -/

section Agree

variable {q : Provider} {last : Nat}

theorem pageReply_congr (ha : q.agent = p.agent) (hs : ∀ i < last, q.server i = p.server i)
    {number : Nat} (h1 : 1 ≤ number) (hl : number ≤ last) :
    q.pageReply s number = p.pageReply s number := by
  rw [pageReply, pageReply, hs (number - 1) (by omega), pageRequest, pageRequest, ha]

theorem rowsThrough_congr (ha : q.agent = p.agent) (hs : ∀ i < last, q.server i = p.server i)
    {number : Nat} (hl : number ≤ last) : q.rowsThrough s number = p.rowsThrough s number := by
  rw [rowsThrough, rowsThrough, List.flatMap_def, List.flatMap_def]
  refine congrArg List.flatten (List.map_congr_left fun i hi => ?_)
  obtain ⟨h1, hi⟩ := List.mem_range'_1.1 hi
  rw [pageRows, pageRows, pageReply_congr ha hs h1 (by omega)]

theorem ends_congr (ha : q.agent = p.agent) (hs : ∀ i < last, q.server i = p.server i)
    {number : Nat} (h1 : 1 ≤ number) (hl : number ≤ last) :
    q.Ends s ends number ↔ p.Ends s ends number := by
  simp only [Ends, rowsThrough_iff, pageReply_congr ha hs h1 hl, rowsThrough_congr ha hs hl]

theorem collectAll_congr
    (hends : ∀ number collected page, s.isLast number collected page = true ↔
      ends number collected page)
    (ha : q.agent = p.agent) (hs : ∀ i < last, q.server i = p.server i)
    (h : IsLeast {i | p.IsLastAsked s ends i} last) : q.collectAll s = p.collectAll s := by
  have hq : IsLeast {i | q.IsLastAsked s ends i} last := by
    refine ⟨⟨h.1.1, h.1.2.imp_left (ends_congr ha hs h.1.1 le_rfl).2⟩, fun i hi => ?_⟩
    by_contra hlt
    exact hlt (h.2 ⟨hi.1, hi.2.imp_left (ends_congr ha hs hi.1 (by omega)).1⟩)
  rw [collectAll_of_isLeast hends h, collectAll_of_isLeast hends hq, outcome, outcome,
    pageReply_congr ha hs h.1.1 le_rfl, rowsThrough_congr ha hs le_rfl]
  refine congrArg (Call.mk · _) (List.map_congr_left fun i hi => ?_)
  obtain ⟨h1, hi⟩ := List.mem_range'_1.1 hi
  rw [pageExchange, pageExchange, pageReply_congr ha hs h1 (by omega), pageRequest, pageRequest, ha]

end Agree

/-! ## Listings and reports -/

variable (p s ends) in
/-- What a call asks for and gives that asks for pages in turn, page `last` being the last one. The
given parameter carries the number of the page. -/
structure Trace (parameter : String) (call : Call (List Object)) (last : Nat) : Prop where
  isLeast : IsLeast {i | p.IsLastAsked s ends i} last
  le_limit : last ≤ 500
  exchanges : call.exchanges = (List.range' 1 last).map (p.pageExchange s)
  numbers : call.exchanges.map (·.request.parameters.lookup parameter) =
    (List.range' 1 last).map fun i => some (Number.natText i)
  failed : ∀ e, Fails s.url s.Gives (p.pageReply s last) e → call.result = .error e
  ok : (¬ ∃ e, Fails s.url s.Gives (p.pageReply s last) e) →
    ∃ rows, p.RowsThrough s last rows ∧ call.result = .ok rows

theorem trace_collectAll
    (hends : ∀ number collected page, s.isLast number collected page = true ↔
      ends number collected page)
    {parameter : String}
    (hparam : ∀ i, (s.parameters i).lookup parameter = some (Number.natText i)) {last : Nat}
    (h : IsLeast {i | p.IsLastAsked s ends i} last) :
    Trace p s ends parameter (p.collectAll s) last := by
  have hcall := collectAll_of_isLeast hends h
  refine ⟨h, h.2 ⟨by omega, .inr rfl⟩, by rw [hcall], ?_, fun e he => ?_, fun hn => ?_⟩
  · rw [hcall, List.map_map]
    exact List.map_congr_left fun i _ => hparam i
  · rw [hcall, outcome, readReply_of_fails s.reads_decode he]
    rfl
  · rcases fails_or_brings s.url s.Gives (p.pageReply s last) with he | ⟨content, hb⟩
    · exact absurd he hn
    · refine ⟨_, rowsThrough_iff.2 rfl, ?_⟩
      rw [hcall, outcome, readReply_of_brings s.reads_decode hb]
      rfl

theorem length_exchanges_of_trace {parameter : String} {call : Call (List Object)} {last : Nat}
    (h : Trace p s ends parameter call last) : call.exchanges.length = last := by
  rw [h.exchanges, List.length_map, List.length_range']

theorem exists_trace
    (hends : ∀ number collected page, s.isLast number collected page = true ↔
      ends number collected page)
    {parameter : String}
    (hparam : ∀ i, (s.parameters i).lookup parameter = some (Number.natText i)) :
    ∃ last, Trace p s ends parameter (p.collectAll s) last ∧
      ∀ server, (∀ i < last, server i = p.server i) →
        { p with server }.collectAll s = p.collectAll s := by
  obtain ⟨last, h⟩ := exists_isLeast_isLastAsked p s ends
  refine ⟨last, trace_collectAll hends hparam h, fun server hs => ?_⟩
  exact collectAll_congr (q := { p with server }) hends rfl hs h

end Pages

/-- **Whatever the server answers, a listing and a report ask for the pages up to the first that
ends them, and give their rows or the failure of the last one. A reply behind that is without
effect.** -/
theorem listing_report_trace (p : Provider) :
    (∀ filter fields, ∃ last,
      Trace p (p.listingSource filter fields) (fun _ collected page => page.announced ≤ collected)
        "pn" (p.listing filter fields) last ∧
      ∀ server, (∀ i < last, server i = p.server i) →
        { p with server }.listing filter fields = p.listing filter fields) ∧
    (∀ name, ∃ last,
      Trace p (p.reportSource name) (fun number _ page => page.announced ≤ number)
        "pageNumber" (p.report name) last ∧
      ∀ server, (∀ i < last, server i = p.server i) →
        { p with server }.report name = p.report name) := by
  constructor
  · intro filter fields
    exact exists_trace (s := p.listingSource filter fields) (fun _ _ _ => decide_eq_true_iff)
      fun _ => rfl
  · intro name
    exact exists_trace (s := p.reportSource name) (fun _ _ _ => decide_eq_true_iff) fun _ => rfl

/-! ### A reply with nothing to give, and one that fails -/

/-- The text of an object with the given members. -/
def objectText (members : List (String × String)) : String :=
  let texts := members.map fun (name, value) => "\"" ++ name ++ "\":" ++ value
  "\x7b" ++ ",".intercalate texts ++ "\x7d"

/-- Octets that bring a page of a listing and of a report at once. -/
def pageOctets (announced rows : String) : List UInt8 :=
  (objectText [("data", objectText [("total", announced), ("diff", rows)]),
    ("result", objectText [("pages", announced), ("data", rows)])]).toUTF8.data.toList

/-- The first page has the given rows, and nothing is given behind it. -/
def thenNull (announced rows : String) (number : Nat) : List UInt8 :=
  if number = 0 then pageOctets announced rows
  else (objectText [("data", "null"), ("result", "null")]).toUTF8.data.toList

/-- A provider whose server answers each request with octets, by its number from 0. -/
def served (octets : Nat → List UInt8) : Provider where
  liveUrl := "http://live"
  historyUrl := "http://history"
  reportUrl := "http://report"
  agent := "agent"
  server number _ := .response 200 (some (octets number))

/-- The number 10.5. -/
def tenAndHalf : Binary64 := .finite false ⟨4622100592565682176, by decide⟩

/-- Two rows, one of which has a price and the other null in its place. -/
def priceRows : List Object :=
  [[("f12", .string "600519"), ("f2", .number (.float tenAndHalf))],
    [("f2", .null), ("f12", .string "000001")]]

/-- The two rows as text. -/
def priceRowsText : String :=
  "[" ++ objectText [("f12", "\"600519\""), ("f2", "1.05e1")] ++ "," ++
    objectText [("f2", "null"), ("f12", "\"000001\"")] ++ "]"

/-- The page that octets bring. -/
def PageSource.pageOf? (s : PageSource) (octets : List UInt8) : Option (Option Page) :=
  (Tree.readList? (Text.ofOctetsFrom none octets)).bind s.decode

theorem brings_served {s : PageSource} {octets : Nat → List UInt8} {number : Nat}
    {content : Option Page} (h : s.pageOf? (octets (number - 1)) = some content) :
    Brings s.Gives ((served octets).pageReply s number) content :=
  brings_of_octets s.reads_decode h

theorem isLeast_second {p : Provider} {s : PageSource} {ends : Nat → Nat → Page → Prop}
    {first : Page} (hb : Brings s.Gives (p.pageReply s 1) (some first))
    (hgo : ¬ (first.rows = [] ∨ ends 1 first.rows.length first)) (hstop : p.Ends s ends 2) :
    IsLeast {i | p.IsLastAsked s ends i} 2 := by
  refine ⟨⟨by decide, .inl hstop⟩, fun i hi => ?_⟩
  by_contra hlt
  obtain ⟨hpos, he⟩ := hi
  obtain rfl : i = 1 := by omega
  rw [ends_iff_of_brings hb, rowsThrough_succ, pageRows_of_brings hb] at he
  exact hgo (he.resolve_right (by decide))

/-- Where the second reply brings no rows, the rows of the first page are all. -/
theorem rowsThrough_second {p : Provider} {s : PageSource} {first : Page} {second? : Option Page}
    (h1 : Brings s.Gives (p.pageReply s 1) (some first))
    (h2 : Brings s.Gives (p.pageReply s 2) second?)
    (hstop : ∀ page, second? = some page → page.rows = []) : p.rowsThrough s 2 = first.rows := by
  rw [rowsThrough_succ, rowsThrough_succ, pageRows_of_brings h1, pageRows,
    readReply_of_brings s.reads_decode h2]
  cases second? with
  | none => simp [rowsThrough]
  | some page => simp [rowsThrough, hstop page rfl]

theorem listing_report_trace_thenNull :
    let p := served (thenNull "3" priceRowsText)
    let q := { p with server := fun number request =>
      if number = 0 then p.server 0 request else .response 503 none }
    (Trace p (p.listingSource "m:0" "f2") (fun _ collected page => page.announced ≤ collected)
        "pn" (p.listing "m:0" "f2") 2 ∧
      (p.listing "m:0" "f2").result = .ok priceRows) ∧
    (Trace p (p.reportSource "CPI") (fun number _ page => page.announced ≤ number)
        "pageNumber" (p.report "CPI") 2 ∧
      (p.report "CPI").result = .ok priceRows) ∧
    Trace q (q.reportSource "CPI") (fun number _ page => page.announced ≤ number)
        "pageNumber" (q.report "CPI") 2 ∧
      (q.report "CPI").result = .error (.status 503 "http://report/api/data/v1/get") := by
  intro p q
  have hfirst : Brings (p.listingSource "m:0" "f2").Gives
      (p.pageReply (p.listingSource "m:0" "f2") 1) (some ⟨3, priceRows⟩) :=
    brings_served (by decide +kernel)
  have hfirst' : Brings (p.reportSource "CPI").Gives (p.pageReply (p.reportSource "CPI") 1)
      (some ⟨3, priceRows⟩) := brings_served (by decide +kernel)
  have hsecond : Brings (p.listingSource "m:0" "f2").Gives
      (p.pageReply (p.listingSource "m:0" "f2") 2) none := brings_served (by decide +kernel)
  have hsecond' : Brings (p.reportSource "CPI").Gives (p.pageReply (p.reportSource "CPI") 2) none :=
    brings_served (by decide +kernel)
  obtain ⟨last, hlisting, -⟩ := (listing_report_trace p).1 "m:0" "f2"
  obtain ⟨last', hreport, -⟩ := (listing_report_trace p).2 "CPI"
  obtain ⟨last'', hfailed, -⟩ := (listing_report_trace q).2 "CPI"
  have hstatus : Fails (q.reportSource "CPI").url (q.reportSource "CPI").Gives
      (q.pageReply (q.reportSource "CPI") 2) (.status 503 "http://report/api/data/v1/get") :=
    .status (by simp [IsSuccess])
  obtain rfl := hlisting.isLeast.unique
    (isLeast_second hfirst (by decide) (.inr (.inl hsecond)))
  obtain rfl := hreport.isLeast.unique
    (isLeast_second hfirst' (by decide) (.inr (.inl hsecond')))
  obtain rfl := hfailed.isLeast.unique
    (isLeast_second hfirst' (by decide) (.inl ⟨_, hstatus⟩))
  have hresult {s : PageSource} {ends : Nat → Nat → Page → Prop} {parameter : String}
      (ht : Trace p s ends parameter (p.collectAll s) 2)
      (hb : Brings s.Gives (p.pageReply s 1) (some ⟨3, priceRows⟩))
      (hn : Brings s.Gives (p.pageReply s 2) none) : (p.collectAll s).result = .ok priceRows := by
    obtain ⟨rows, hrows, hok⟩ := ht.ok (hn.not_fails s.reads_decode)
    rw [hok, ← rowsThrough_iff.1 hrows, rowsThrough_second hb hn nofun]
  exact ⟨⟨hlisting, hresult hlisting hfirst hsecond⟩, ⟨hreport, hresult hreport hfirst' hsecond'⟩,
    hfailed, hfailed.failed _ hstatus⟩

end MarketQuery.Provider
