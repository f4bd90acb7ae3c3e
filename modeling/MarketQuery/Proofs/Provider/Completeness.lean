import Mathlib.Data.List.Basic
import MarketQuery.Proofs.Provider.Paging

/-!
# Pages from a faithful server

A server may cut rows into pages as it likes. As long as each page has rows and there are at most
500 of them, none of the rows is lost and none comes twice.

* `Serves`: the server answers with the given pages and announces the given number on each;
* `Gathers`: a call asks for each page once, in order, and gives the rows of all;
* `isLeast_of_serves`, `gathers_of_serves`: if nothing but the last page ends them, it is the last
  one asked for, and all are gathered; `gathers_listing`, `gathers_report`;
* **`listing_report_complete`**: listings and reports gather all pages of a faithful server.
-/

namespace MarketQuery.Provider

open Json

section Serving

variable (p : Provider) (s : PageSource) (announced : Nat) (pages : List (List Object))

/-- The server answers the request for each page with it and announces the given number. -/
def Serves : Prop :=
  ∀ i (hi : i < pages.length), Brings s.Gives (p.pageReply s (i + 1)) (some ⟨announced, pages[i]⟩)

/-- A call asks for each page once, in order, and gives the rows of all. The given parameter carries
the number of the page. -/
structure Gathers (parameter : String) (call : Call (List Object)) : Prop where
  result : call.result = .ok pages.flatten
  requests : call.exchanges.map (·.request) = (List.range' 1 pages.length).map (p.pageRequest s)
  numbers : call.exchanges.map (·.request.parameters.lookup parameter) =
    (List.range' 1 pages.length).map fun i => some (Number.natText i)

variable {p s announced pages}

theorem rowsThrough_of_serves (h : Serves p s announced pages) {number : Nat}
    (hn : number ≤ pages.length) : p.rowsThrough s number = (pages.take number).flatten := by
  induction number with
  | zero => rfl
  | succ number ih =>
    rw [rowsThrough_succ, ih (by omega), pageRows_of_brings (h number hn),
      List.take_succ_eq_append_getElem hn, List.flatten_append, List.flatten_singleton]

theorem ends_iff_of_serves {ends : Nat → Nat → Page → Prop} (h : Serves p s announced pages)
    (hne : ∀ rows ∈ pages, rows ≠ []) {number : Nat} (hn : number < pages.length) :
    p.Ends s ends (number + 1) ↔
      ends (number + 1) (pages.take (number + 1)).flatten.length ⟨announced, pages[number]⟩ := by
  rw [ends_iff_of_brings (h number hn), rowsThrough_of_serves h hn]
  exact or_iff_right (hne _ (List.getElem_mem hn))

section Last

variable {ends : Nat → Nat → Page → Prop} (h : Serves p s announced pages)
  (hpos : 1 ≤ pages.length) (hlimit : pages.length ≤ 500) (hne : ∀ rows ∈ pages, rows ≠ [])
  (hlast : ∀ number (hn : number < pages.length),
    ends (number + 1) (pages.take (number + 1)).flatten.length ⟨announced, pages[number]⟩ ↔
      number + 1 = pages.length)
include h hpos hlimit hne hlast

theorem isLeast_of_serves : IsLeast {i | p.IsLastAsked s ends i} pages.length := by
  have hends : ∀ number < pages.length,
      (p.Ends s ends (number + 1) ↔ number + 1 = pages.length) := fun number hn =>
    (ends_iff_of_serves h hne hn).trans (hlast number hn)
  refine ⟨⟨hpos, .inl ?_⟩, fun i hi => ?_⟩
  · rw [show pages.length = pages.length - 1 + 1 by omega, hends _ (by omega)]
    omega
  · obtain ⟨h1, he⟩ := hi
    by_contra hlt
    rcases he with he | he
    · rw [show i = i - 1 + 1 by omega, hends _ (by omega)] at he
      omega
    · omega

theorem gathers_of_serves
    (hends : ∀ number collected page, s.isLast number collected page = true ↔
      ends number collected page)
    {parameter : String}
    (hparam : ∀ i, (s.parameters i).lookup parameter = some (Number.natText i)) :
    Gathers p s pages parameter (p.collectAll s) := by
  have ht := trace_collectAll hends hparam (isLeast_of_serves h hpos hlimit hne hlast)
  have hb := h (pages.length - 1) (by omega)
  rw [show pages.length - 1 + 1 = pages.length by omega] at hb
  refine ⟨?_, ?_, ht.numbers⟩
  · obtain ⟨rows, hrows, hok⟩ := ht.ok (hb.not_fails s.reads_decode)
    rw [hok, ← rowsThrough_iff.1 hrows, rowsThrough_of_serves h le_rfl, List.take_length]
  · rw [ht.exchanges, List.map_map]
    rfl

end Last

end Serving

theorem length_flatten_take_lt {pages : List (List Object)} (hne : ∀ rows ∈ pages, rows ≠ [])
    {number : Nat} (hn : number < pages.length) :
    (pages.take number).flatten.length < pages.flatten.length := by
  have hsplit : pages.flatten = (pages.take number).flatten ++ (pages.drop number).flatten := by
    rw [← List.flatten_append, List.take_append_drop]
  have hpos : 0 < pages[number].length :=
    List.length_pos_iff.2 (hne _ (List.getElem_mem hn))
  rw [hsplit, List.drop_eq_getElem_cons hn, List.flatten_cons, List.length_append,
    List.length_append]
  omega

section Sources

variable {p : Provider} {pages : List (List Object)} (hpos : 1 ≤ pages.length)
  (hlimit : pages.length ≤ 500) (hne : ∀ rows ∈ pages, rows ≠ [])
include hpos hlimit hne

theorem gathers_listing {filter fields : String}
    (h : Serves p (p.listingSource filter fields) pages.flatten.length pages) :
    Gathers p (p.listingSource filter fields) pages "pn" (p.listing filter fields) := by
  refine gathers_of_serves h hpos hlimit hne (fun number hn => ?_)
    (fun _ _ _ => decide_eq_true_iff) fun _ => rfl
  constructor
  · intro hle
    by_contra hlt
    exact absurd hle (Nat.not_le.2 (length_flatten_take_lt hne (by omega)))
  · intro he
    rw [he, List.take_length]

theorem gathers_report {name : String}
    (h : Serves p (p.reportSource name) pages.length pages) :
    Gathers p (p.reportSource name) pages "pageNumber" (p.report name) := by
  refine gathers_of_serves h hpos hlimit hne (fun number hn => ?_)
    (fun _ _ _ => decide_eq_true_iff) fun _ => rfl
  constructor
  · intro hle
    exact le_antisymm hn hle
  · exact le_of_eq ∘ Eq.symm

end Sources

/-- **A listing and a report gather all pages of a faithful server**, however it cuts the rows. -/
theorem listing_report_complete (p : Provider) {pages : List (List Object)}
    (hpos : 1 ≤ pages.length) (hlimit : pages.length ≤ 500) (hne : ∀ rows ∈ pages, rows ≠ []) :
    (∀ filter fields, Serves p (p.listingSource filter fields) pages.flatten.length pages →
      Gathers p (p.listingSource filter fields) pages "pn" (p.listing filter fields)) ∧
    (∀ name, Serves p (p.reportSource name) pages.length pages →
      Gathers p (p.reportSource name) pages "pageNumber" (p.report name)) :=
  ⟨fun _ _ => gathers_listing hpos hlimit hne, fun _ => gathers_report hpos hlimit hne⟩

/-- Three rows on two pages. -/
def threeRows : List (List Object) :=
  [[[("f", .string "a")], [("f", .string "b")]], [[("f", .string "c")]]]

/-- Octets that bring a page of the three rows, as a listing and as a report at once. -/
def threeRowOctets (number : Nat) : List UInt8 :=
  let letters := if number = 0 then ["\"a\"", "\"b\""] else ["\"c\""]
  let rows := "[" ++ ",".intercalate (letters.map fun s => objectText [("f", s)]) ++ "]"
  (objectText [("data", objectText [("total", "3"), ("diff", rows)]),
    ("result", objectText [("pages", "2"), ("data", rows)])]).toUTF8.data.toList

/-- A provider whose server answers with the three rows. -/
def threeRowProvider : Provider := served threeRowOctets

theorem listing_report_complete_threeRows :
    let p := threeRowProvider
    (Serves p (p.listingSource "m:0" "f") 3 threeRows ∧
      Gathers p (p.listingSource "m:0" "f") threeRows "pn" (p.listing "m:0" "f")) ∧
    (Serves p (p.reportSource "CPI") 2 threeRows ∧
      Gathers p (p.reportSource "CPI") threeRows "pageNumber" (p.report "CPI")) := by
  have hlisting : ∀ i : Fin threeRows.length,
      (threeRowProvider.listingSource "m:0" "f").pageOf? (threeRowOctets i) =
        some (some ⟨3, threeRows[i]⟩) := by decide +kernel
  have hreport : ∀ i : Fin threeRows.length,
      (threeRowProvider.reportSource "CPI").pageOf? (threeRowOctets i) =
        some (some ⟨2, threeRows[i]⟩) := by decide +kernel
  have hl : Serves threeRowProvider (threeRowProvider.listingSource "m:0" "f") 3 threeRows :=
    fun i hi => brings_served (hlisting ⟨i, hi⟩)
  have hr : Serves threeRowProvider (threeRowProvider.reportSource "CPI") 2 threeRows :=
    fun i hi => brings_served (hreport ⟨i, hi⟩)
  have h := @listing_report_complete threeRowProvider threeRows (by decide) (by decide) (by decide)
  exact ⟨⟨hl, h.1 "m:0" "f" hl⟩, ⟨hr, h.2 "CPI" hr⟩⟩

end MarketQuery.Provider
