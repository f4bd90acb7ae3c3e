import Mathlib.Data.List.Basic
import MarketQuery.Proofs.Provider.Completeness

/-!
# Pages that fall short

A server announces how many rows or pages there are. A call that asks for pages in turn may end
before all of them have come, and gives what has come as if it were all.

* `LastGiven`: the last page that a call is given;
* `CutShort`: a reply with nothing to give, a page without rows, or the page limit ends a call;
* `Contributes`: a page was asked for and its rows are among all; `contributes_of_trace`: so are
  those of each page up to the last;
* `ends_or_cutShort`: the last page given is the last one announced, or the call is cut short;
* **`complete_or_cutShort`**: a listing or a report that is not cut short is complete;
* `FallsShort`, `fallsShort_each`: each way of cutting it short can leave it incomplete.
-/

namespace MarketQuery.Provider

open Json

section Calls

variable (p : Provider) (s : PageSource) (call : Call (List Object)) (rows : List Object)

/-- The last page that a call is given: no reply behind it brings one. -/
def LastGiven (page : Page) : Prop :=
  ∃ before x after, call.exchanges = before ++ x :: after ∧ Brings s.Gives x.reply (some page) ∧
    ∀ y ∈ after, ∀ page', ¬ Brings s.Gives y.reply (some page')

/-- What may end a call before all that is announced has come: a reply that has nothing to give, a
page without rows, or the page limit. -/
inductive CutShort : Prop
  | nothing {x : Exchange} (hx : call.exchanges.getLast? = some x)
      (h : Brings s.Gives x.reply none)
  | noRows {x : Exchange} {page : Page} (hx : call.exchanges.getLast? = some x)
      (h : Brings s.Gives x.reply (some page)) (hr : page.rows = [])
  | limit (h : call.exchanges.length = 500)

/-- A page was asked for, and its rows are among all, right behind those of the pages before it. -/
def Contributes (number : Nat) : Prop :=
  p.pageExchange s number ∈ call.exchanges ∧
    ∃ page before after, Brings s.Gives (p.pageReply s number) (some page) ∧
      p.RowsThrough s (number - 1) before ∧ rows = before ++ page.rows ++ after

variable {p s call rows}

theorem lastGiven_of_getLast? {page : Page} {x : Exchange}
    (hx : call.exchanges.getLast? = some x) (hb : Brings s.Gives x.reply (some page)) :
    LastGiven s call page := by
  obtain ⟨before, hbefore⟩ := List.getLast?_eq_some_iff.1 hx
  exact ⟨before, x, [], hbefore, hb, by simp⟩

theorem LastGiven.eq_of_getLast? {page page' : Page} {x : Exchange} (h : LastGiven s call page)
    (hx : call.exchanges.getLast? = some x) (hb : Brings s.Gives x.reply (some page')) :
    page = page' := by
  obtain ⟨before, y, after, he, hy, hafter⟩ := h
  obtain ⟨front, hfront⟩ := List.getLast?_eq_some_iff.1 hx
  rcases after.eq_nil_or_concat' with rfl | ⟨after, z, rfl⟩
  · obtain ⟨-, hyx⟩ := List.append_inj' (he.symm.trans hfront) rfl
    obtain rfl := List.head_eq_of_cons_eq hyx
    exact Option.some.inj (hy.unique s.reads_decode hb)
  · rw [hfront, ← List.cons_append, ← List.append_assoc] at he
    obtain ⟨-, hxz⟩ := List.append_inj' he rfl
    obtain rfl := List.head_eq_of_cons_eq hxz
    exact absurd hb (hafter x (by simp) page')

end Calls

/-! ## Traces -/

section Traces

variable {p : Provider} {s : PageSource} {ends : Nat → Nat → Page → Prop} {parameter : String}
  {call : Call (List Object)} {last : Nat} {rows : List Object}

theorem getLast?_exchanges_of_trace (h : Trace p s ends parameter call last) :
    call.exchanges.getLast? = some (p.pageExchange s last) := by
  obtain ⟨number, rfl⟩ := Nat.exists_eq_succ_of_ne_zero (Nat.one_le_iff_ne_zero.1 h.isLeast.1.1)
  rw [h.exchanges, List.range'_1_concat, List.map_append, Nat.add_comm 1 number]
  simp

theorem not_fails_of_trace (h : Trace p s ends parameter call last) (hr : call.result = .ok rows) :
    ¬ ∃ e, Fails s.url s.Gives (p.pageReply s last) e := by
  rintro ⟨e, he⟩
  cases hr.symm.trans (h.failed e he)

theorem rows_eq_of_trace (h : Trace p s ends parameter call last) (hr : call.result = .ok rows) :
    rows = p.rowsThrough s last := by
  obtain ⟨rows', hrows, hok⟩ := h.ok (not_fails_of_trace h hr)
  rw [rowsThrough_iff.1 hrows]
  exact Except.ok.inj (hr.symm.trans hok)

theorem rowsThrough_of_trace (h : Trace p s ends parameter call last)
    (hr : call.result = .ok rows) : p.RowsThrough s call.exchanges.length rows := by
  rw [length_exchanges_of_trace h]
  exact rowsThrough_iff.2 (rows_eq_of_trace h hr).symm

/-- A page before the last one asked for brings rows. -/
theorem exists_brings_of_lt (h : Trace p s ends parameter call last) {number : Nat}
    (h1 : 1 ≤ number) (hlt : number < last) :
    ∃ page, Brings s.Gives (p.pageReply s number) (some page) := by
  have hnot : ¬ p.Ends s ends number := fun he =>
    absurd (h.isLeast.2 ⟨h1, .inl he⟩) (Nat.not_le.2 hlt)
  rcases fails_or_brings s.url s.Gives (p.pageReply s number) with hf | ⟨page?, hb⟩
  · exact absurd (.inl hf) hnot
  · cases page? with
    | none => exact absurd (.inr (.inl hb)) hnot
    | some page => exact ⟨page, hb⟩

theorem exists_rowsThrough_eq (p : Provider) (s : PageSource) {number last : Nat}
    (h : number ≤ last) : ∃ after, p.rowsThrough s last = p.rowsThrough s number ++ after := by
  induction h with
  | refl => exact ⟨[], by simp⟩
  | step _ ih =>
    obtain ⟨after, ha⟩ := ih
    exact ⟨after ++ p.pageRows s _, by rw [rowsThrough_succ, ha, List.append_assoc]⟩

theorem contributes_of_trace (h : Trace p s ends parameter call last)
    (hr : call.result = .ok rows) {page : Page}
    (hb : Brings s.Gives (p.pageReply s last) (some page)) {number : Nat} (h1 : 1 ≤ number)
    (hl : number ≤ last) : Contributes p s call rows number := by
  refine ⟨?_, ?_⟩
  · rw [h.exchanges]
    exact List.mem_map_of_mem (List.mem_range'_1.2 ⟨h1, by omega⟩)
  · obtain ⟨page', hb'⟩ : ∃ page, Brings s.Gives (p.pageReply s number) (some page) := by
      rcases Nat.lt_or_eq_of_le hl with hlt | rfl
      · exact exists_brings_of_lt h h1 hlt
      · exact ⟨page, hb⟩
    obtain ⟨after, ha⟩ := exists_rowsThrough_eq p s hl
    refine ⟨page', _, after, hb', rowsThrough_iff.2 rfl, ?_⟩
    have hsucc := rowsThrough_succ (p := p) (s := s) (number - 1)
    rw [Nat.sub_add_cancel h1, pageRows_of_brings hb'] at hsucc
    rw [rows_eq_of_trace h hr, ha, hsucc]

/-- The last page given is the last one announced, or the call is cut short. -/
theorem ends_or_cutShort (h : Trace p s ends parameter call last) (hr : call.result = .ok rows)
    {page : Page} (hg : LastGiven s call page) :
    (Brings s.Gives (p.pageReply s last) (some page) ∧ ends last rows.length page) ∨
      CutShort s call := by
  have hlast := getLast?_exchanges_of_trace h
  rcases h.isLeast.1.2 with (hf | hn | ⟨page', rows', hb, hrows, hp⟩) | hlimit
  · exact absurd hf (not_fails_of_trace h hr)
  · exact .inr (.nothing hlast hn)
  · rcases hp with hp | hp
    · exact .inr (.noRows hlast hb hp)
    · obtain rfl := hg.eq_of_getLast? hlast hb
      rw [rows_eq_of_trace h hr, rowsThrough_iff.1 hrows]
      exact .inl ⟨hb, hp⟩
  · exact .inr (.limit ((length_exchanges_of_trace h).trans hlimit))

end Traces

/-! ## Listings and reports -/

section Sources

variable (p : Provider) (filter fields name : String)

theorem isLast_listingSource (number collected : Nat) (page : Page) :
    (p.listingSource filter fields).isLast number collected page = true ↔
      page.announced ≤ collected :=
  decide_eq_true_iff

theorem isLast_reportSource (number collected : Nat) (page : Page) :
    (p.reportSource name).isLast number collected page = true ↔ page.announced ≤ number :=
  decide_eq_true_iff

theorem lookup_listingSource (number : Nat) :
    ((p.listingSource filter fields).parameters number).lookup "pn" =
      some (Number.natText number) :=
  rfl

theorem lookup_reportSource (number : Nat) :
    ((p.reportSource name).parameters number).lookup "pageNumber" =
      some (Number.natText number) :=
  rfl

end Sources

/-- **A listing that is not cut short has at least the rows that are announced, and a report those
of all announced pages**, whatever the server answers. Either way the rows are those of all pages
that were asked for, also where the call is cut short. -/
theorem complete_or_cutShort (p : Provider) :
    (∀ filter fields rows, (p.listing filter fields).result = .ok rows →
      p.RowsThrough (p.listingSource filter fields) (p.listing filter fields).exchanges.length
          rows ∧
        ∀ page, LastGiven (p.listingSource filter fields) (p.listing filter fields) page →
          page.announced ≤ rows.length ∨
            CutShort (p.listingSource filter fields) (p.listing filter fields)) ∧
    (∀ name rows, (p.report name).result = .ok rows →
      p.RowsThrough (p.reportSource name) (p.report name).exchanges.length rows ∧
        ∀ page, LastGiven (p.reportSource name) (p.report name) page →
          (∀ number, 1 ≤ number → number ≤ page.announced →
              Contributes p (p.reportSource name) (p.report name) rows number) ∨
            CutShort (p.reportSource name) (p.report name)) := by
  constructor
  · intro filter fields rows hr
    obtain ⟨last, ht, -⟩ := exists_trace (p.isLast_listingSource filter fields)
      (p.lookup_listingSource filter fields)
    exact ⟨rowsThrough_of_trace ht hr,
      fun page hg => (ends_or_cutShort ht hr hg).imp_left And.right⟩
  · intro name rows hr
    obtain ⟨last, ht, -⟩ := exists_trace (p.isLast_reportSource name) (p.lookup_reportSource name)
    refine ⟨rowsThrough_of_trace ht hr, fun page hg => (ends_or_cutShort ht hr hg).imp_left ?_⟩
    rintro ⟨hb, hle⟩ number h1 hn
    exact contributes_of_trace ht hr hb h1 (le_trans hn hle)

/-! ## Answers that fall short -/

/-- A row with one field. -/
def oneRow : Object := [("f", .string "a")]

/-- A list of the row as text. -/
def oneRowText : String := "[" ++ objectText [("f", "\"a\"")] ++ "]"

/-- The first page is one of three, and nothing is given behind it. -/
def thenNothing : Nat → List UInt8 := thenNull "3" oneRowText

/-- The first page is one of three, and the second has no rows. -/
def thenNoRows (number : Nat) : List UInt8 :=
  pageOctets "3" (if number = 0 then oneRowText else "[]")

/-- There are 501 pages with one row each. -/
def manyPages (_ : Nat) : List UInt8 := pageOctets "501" oneRowText

/-- A listing and a report are given, and not all that is announced has come. -/
structure FallsShort (p : Provider) : Prop where
  listing : ∃ rows page, (p.listing "m:0" "f").result = .ok rows ∧
    LastGiven (p.listingSource "m:0" "f") (p.listing "m:0" "f") page ∧
    ¬ page.announced ≤ rows.length
  report : ∃ rows page, (p.report "CPI").result = .ok rows ∧
    LastGiven (p.reportSource "CPI") (p.report "CPI") page ∧
    ¬ ∀ number, 1 ≤ number → number ≤ page.announced →
      Contributes p (p.reportSource "CPI") (p.report "CPI") rows number

section Calls

variable {s : PageSource} {ends : Nat → Nat → Page → Prop} {parameter : String}
  (hends : ∀ number collected page, s.isLast number collected page = true ↔
    ends number collected page)
  (hparam : ∀ i, (s.parameters i).lookup parameter = some (Number.natText i))
include hends hparam

/-- Where the second reply brings no rows, the rows of the first page are given. -/
theorem result_of_second {p : Provider} {first : Page} {second? : Option Page}
    (h1 : Brings s.Gives (p.pageReply s 1) (some first))
    (h2 : Brings s.Gives (p.pageReply s 2) second?)
    (hgo : ¬ (first.rows = [] ∨ ends 1 first.rows.length first))
    (hstop : ∀ page, second? = some page → page.rows = []) :
    (p.collectAll s).result = .ok first.rows ∧
      (p.collectAll s).exchanges = [p.pageExchange s 1, p.pageExchange s 2] ∧
      LastGiven s (p.collectAll s) (second?.getD first) := by
  have hends2 : p.Ends s ends 2 := by
    cases second? with
    | none => exact .inr (.inl h2)
    | some page => exact (ends_iff_of_brings h2).2 (.inl (hstop page rfl))
  have ht := trace_collectAll hends hparam (isLeast_second h1 hgo hends2)
  obtain ⟨rows, hrows, hok⟩ := ht.ok (h2.not_fails s.reads_decode)
  rw [← rowsThrough_iff.1 hrows, rowsThrough_second h1 h2 hstop] at hok
  refine ⟨hok, ht.exchanges, ?_⟩
  cases second? with
  | some page => exact lastGiven_of_getLast? (getLast?_exchanges_of_trace ht) h2
  | none =>
    refine ⟨[], _, [_], ht.exchanges, h1, fun z hz page' hb => ?_⟩
    obtain rfl := List.mem_singleton.1 hz
    cases h2.unique s.reads_decode hb

/-! ### More pages than are asked for -/

section Many

omit hends hparam
variable (h : s.pageOf? (manyPages 0) = some (some ⟨501, [oneRow]⟩))
include h

theorem brings_manyPages (number : Nat) :
    Brings s.Gives ((served manyPages).pageReply s number) (some ⟨501, [oneRow]⟩) :=
  brings_served h

theorem length_rowsThrough_manyPages (number : Nat) :
    ((served manyPages).rowsThrough s number).length = number := by
  induction number with
  | zero => rfl
  | succ number ih =>
    rw [rowsThrough_succ, pageRows_of_brings (brings_manyPages h _), List.length_append, ih]
    rfl

theorem isLeast_limit (hgo : ∀ number < 500, ¬ ends number number ⟨501, [oneRow]⟩) :
    IsLeast {i | (served manyPages).IsLastAsked s ends i} 500 := by
  refine ⟨⟨by decide, .inr rfl⟩, fun i hi => ?_⟩
  by_contra hlt
  have hb := brings_manyPages h i
  obtain ⟨-, he | rfl⟩ := hi
  · rw [ends_iff_of_brings hb, length_rowsThrough_manyPages h] at he
    exact hgo i (by omega) (he.resolve_left (by simp))
  · exact hlt le_rfl

include hends hparam in
/-- Of 501 pages the rows of 500 are given. -/
theorem result_manyPages (hgo : ∀ number < 500, ¬ ends number number ⟨501, [oneRow]⟩) :
    ∃ rows, ((served manyPages).collectAll s).result = .ok rows ∧ rows.length = 500 ∧
      LastGiven s ((served manyPages).collectAll s) ⟨501, [oneRow]⟩ := by
  have hb := brings_manyPages h 500
  have ht := trace_collectAll hends hparam (isLeast_limit h hgo)
  obtain ⟨rows, hrows, hok⟩ := ht.ok (hb.not_fails s.reads_decode)
  refine ⟨rows, hok, ?_, lastGiven_of_getLast? (getLast?_exchanges_of_trace ht) hb⟩
  rw [← rowsThrough_iff.1 hrows, length_rowsThrough_manyPages h]

end Many
end Calls

/-! ### Where listings and reports fall short -/

/-- Of a report whose pages 1 and 2 are asked for, page 3 contributes nothing. -/
theorem not_contributes_third {p : Provider} {name : String} {rows : List Object}
    (he : (p.report name).exchanges =
      [p.pageExchange (p.reportSource name) 1, p.pageExchange (p.reportSource name) 2]) :
    ¬ Contributes p (p.reportSource name) (p.report name) rows 3 := by
  rintro ⟨hasked, -⟩
  rw [he] at hasked
  have hnumber : some (Number.natText 3) ∈ [some (Number.natText 1), some (Number.natText 2)] :=
    List.mem_map_of_mem (f := fun x : Exchange => x.request.parameters.lookup "pageNumber") hasked
  exact absurd hnumber (by decide)

theorem fallsShort_of_second {octets : Nat → List UInt8} {second? : Option Page}
    (h1 : ((served octets).listingSource "m:0" "f").pageOf? (octets 0) =
      some (some ⟨3, [oneRow]⟩))
    (h1' : ((served octets).reportSource "CPI").pageOf? (octets 0) = some (some ⟨3, [oneRow]⟩))
    (h2 : ((served octets).listingSource "m:0" "f").pageOf? (octets 1) = some second?)
    (h2' : ((served octets).reportSource "CPI").pageOf? (octets 1) = some second?)
    (hsecond : second? = none ∨ second? = some ⟨3, []⟩) : FallsShort (served octets) := by
  have hstop : ∀ page, second? = some page → page.rows = [] := by
    rintro page rfl
    rcases hsecond with h | h <;> cases h
    rfl
  have hlast : (second?.getD ⟨3, [oneRow]⟩).announced = 3 := by
    rcases hsecond with rfl | rfl <;> rfl
  constructor
  · obtain ⟨hr, -, hg⟩ := result_of_second (isLast_listingSource _ _ _)
      (lookup_listingSource _ _ _) (brings_served h1) (brings_served h2) (by decide) hstop
    exact ⟨_, _, hr, hg, by rw [hlast]; decide⟩
  · obtain ⟨hr, he, hg⟩ := result_of_second (isLast_reportSource _ _)
      (lookup_reportSource _ _) (brings_served h1') (brings_served h2') (by decide) hstop
    refine ⟨_, _, hr, hg, fun hall => ?_⟩
    exact not_contributes_third he (hall 3 (by decide) (Nat.le_of_eq hlast.symm))

theorem fallsShort_manyPages : FallsShort (served manyPages) where
  listing := by
    have h : ((served manyPages).listingSource "m:0" "f").pageOf? (manyPages 0) =
        some (some ⟨501, [oneRow]⟩) := by decide +kernel
    obtain ⟨rows, hr, hlength, hg⟩ := result_manyPages (isLast_listingSource _ _ _)
      (lookup_listingSource _ _ _) h fun number hn => by simp; omega
    exact ⟨rows, _, hr, hg, by rw [hlength]; decide⟩
  report := by
    have h : ((served manyPages).reportSource "CPI").pageOf? (manyPages 0) =
        some (some ⟨501, [oneRow]⟩) := by decide +kernel
    obtain ⟨rows, hr, hlength, hg⟩ := result_manyPages (isLast_reportSource _ _)
      (lookup_reportSource _ _) h fun number hn => by simp; omega
    refine ⟨rows, _, hr, hg, fun hall => ?_⟩
    -- The rows of page 501 would stand behind those of the 500 pages before it.
    obtain ⟨-, page, before, after, hb, hbefore, hrows⟩ := hall 501 (by decide) le_rfl
    obtain rfl : page = ⟨501, [oneRow]⟩ :=
      Option.some.inj (hb.unique (PageSource.reads_decode _) (brings_manyPages h 501))
    rw [hrows, ← rowsThrough_iff.1 hbefore] at hlength
    simp [length_rowsThrough_manyPages h] at hlength

theorem fallsShort_thenNothing : FallsShort (served thenNothing) :=
  fallsShort_of_second (by decide +kernel) (by decide +kernel) (by decide +kernel)
    (by decide +kernel) (.inl rfl)

/-- An answer need not be complete because it is given: a reply without a page, a page without rows
and the page limit each leave a listing and a report that fall short. -/
theorem fallsShort_each :
    FallsShort (served thenNothing) ∧ FallsShort (served thenNoRows) ∧
      FallsShort (served manyPages) :=
  ⟨fallsShort_thenNothing, fallsShort_of_second (by decide +kernel) (by decide +kernel)
    (by decide +kernel) (by decide +kernel) (.inr rfl), fallsShort_manyPages⟩

theorem complete_or_cutShort_thenNothing :
    let p := served thenNothing
    ((p.listing "m:0" "f").result = .ok [oneRow] ∧
      LastGiven (p.listingSource "m:0" "f") (p.listing "m:0" "f") ⟨3, [oneRow]⟩ ∧
      p.RowsThrough (p.listingSource "m:0" "f") 2 [oneRow] ∧
      CutShort (p.listingSource "m:0" "f") (p.listing "m:0" "f")) ∧
    (p.report "CPI").result = .ok [oneRow] ∧
      LastGiven (p.reportSource "CPI") (p.report "CPI") ⟨3, [oneRow]⟩ ∧
      p.RowsThrough (p.reportSource "CPI") 2 [oneRow] ∧
      CutShort (p.reportSource "CPI") (p.report "CPI") := by
  intro p
  have hfirst :
      (p.listingSource "m:0" "f").pageOf? (thenNothing 0) = some (some ⟨3, [oneRow]⟩) := by
    decide +kernel
  have hfirst' : (p.reportSource "CPI").pageOf? (thenNothing 0) = some (some ⟨3, [oneRow]⟩) := by
    decide +kernel
  have hsecond : (p.listingSource "m:0" "f").pageOf? (thenNothing 1) = some none := by
    decide +kernel
  have hsecond' : (p.reportSource "CPI").pageOf? (thenNothing 1) = some none := by decide +kernel
  obtain ⟨hr, he, hg⟩ := result_of_second (isLast_listingSource _ _ _) (lookup_listingSource _ _ _)
    (brings_served hfirst) (brings_served hsecond) (by decide) nofun
  obtain ⟨hr', he', hg'⟩ := result_of_second (isLast_reportSource _ _) (lookup_reportSource _ _)
    (brings_served hfirst') (brings_served hsecond') (by decide) nofun
  obtain ⟨hrows, hcut⟩ := (complete_or_cutShort p).1 _ _ _ hr
  obtain ⟨hrows', hcut'⟩ := (complete_or_cutShort p).2 _ _ hr'
  rw [listing, he] at hrows
  rw [report, he'] at hrows'
  refine ⟨⟨hr, hg, hrows, (hcut _ hg).resolve_left (by decide)⟩, hr', hg', hrows',
    (hcut' _ hg').resolve_left fun hall => ?_⟩
  exact not_contributes_third he' (hall 3 (by decide) (by decide))

end MarketQuery.Provider
