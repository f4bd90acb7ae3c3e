import MarketQuery.Proofs.Json.Records
import MarketQuery.Provider

/-!
# What replies hold

What the tree of a reply gives is told here by its fields, and each reader of replies is matched
with it.

* `Lacks`, `Carries`, `reads_content?`: a reply has nothing to give, or what its only known field
  holds;
* `IsHistory`, `IsPage`: the bars and the rows that a tree holds;
* `GivesHistory`, `PageSource.Gives`: the history and the page that a reply gives; `reads_ofReply`,
  `PageSource.reads_decode`.
-/

namespace MarketQuery.Provider

open Json

variable {α : Type} {decode : Tree → Option α} {Content : Tree → α → Prop}

/-! ## The only known field of a reply -/

/-- The only known field of a record is left out or null. -/
def Lacks (field : String) (required : Nat) (tree : Tree) : Prop :=
  HasFields [field] required tree [none] ∨ HasFields [field] required tree [some .null]

/-- A record gives nothing where it lacks its only known field, and else what the field holds. -/
inductive Carries (field : String) (required : Nat) (Content : Tree → α → Prop) (tree : Tree) :
    Option α → Prop
  | nothing (h : Lacks field required tree) : Carries field required Content tree none
  | content {value : Tree} {a : α} (hf : HasFields [field] required tree [some value])
      (hn : value ≠ .null) (h : Content value a) : Carries field required Content tree (some a)

theorem carries_iff {field : String} {required : Nat} {tree : Tree} {a? : Option α} :
    Carries field required Content tree a? ↔ ∃ value?, HasFields [field] required tree [value?] ∧
      OrDefault none (OrNull Content) value? a? := by
  constructor
  · intro h
    cases h with
    | nothing h =>
      rcases h with h | h
      · exact ⟨_, h, .absent⟩
      · exact ⟨_, h, .given .null⟩
    | content hf hn h => exact ⟨_, hf, .given (.given hn h)⟩
  · rintro ⟨value?, hf, h⟩
    cases h with
    | absent => exact .nothing (.inl hf)
    | given h =>
      cases h with
      | null => exact .nothing (.inr hf)
      | given hn h => exact .content hf hn h

theorem reads_content? (h : Reads decode Content) (field : String) (required : Nat) :
    Reads (content? field required decode) (Carries field required Content) := by
  intro tree a?
  have hvalue (value? : Option Tree) : orElse? none (optional? decode) value? = some a? ↔
      OrDefault none (OrNull Content) value? a? := orElse?_eq_some_iff (reads_optional? h)
  rw [carries_iff, content?, Option.bind_eq_bind, Option.bind_eq_some_iff]
  constructor
  · rintro ⟨fields, hf, hv⟩
    rw [fields?_eq_some_iff] at hf
    obtain ⟨value?, rfl⟩ := List.length_eq_one_iff.1 hf.length_eq
    exact ⟨value?, hf, (hvalue value?).1 hv⟩
  · rintro ⟨value?, hf, hv⟩
    exact ⟨[value?], fields?_eq_some_iff.2 hf, (hvalue value?).2 hv⟩

/-! ## Histories and pages -/

/-- A tree holds the bars of a symbol. What is left out of it is empty. -/
inductive IsHistory (tree : Tree) : History → Prop
  | intro {code? name? lines? : Option Tree} {code : String} {name : Option String}
      {lines : List String}
      (hf : HasFields ["code", "name", "klines"] 0 tree [code?, name?, lines?])
      (hc : OrDefault "" IsText code? code) (hn : OrDefault none (OrNull IsText) name? name)
      (hl : OrDefault [] (IsList IsText) lines? lines) : IsHistory tree ⟨code, name, lines⟩

/-- A tree holds a page: the announced number and the rows under the given names, 0 and none where
they are left out. -/
inductive IsPage (announced rows : String) (tree : Tree) : Page → Prop
  | intro {number? rows? : Option Tree} {number : Nat} {objects : List Object}
      (hf : HasFields [announced, rows] 0 tree [number?, rows?])
      (hn : OrDefault 0 IsCount number? number)
      (hr : OrDefault [] (IsList (IsRow 3)) rows? objects) :
      IsPage announced rows tree ⟨number, objects⟩

theorem reads_history : Reads History.ofTree? IsHistory := by
  intro tree history
  rw [History.ofTree?, Option.bind_eq_bind, Option.bind_eq_some_iff]
  constructor
  · rintro ⟨fields, hf, h⟩
    rw [fields?_eq_some_iff] at hf
    obtain ⟨code?, name?, lines?, rfl⟩ := List.length_eq_three.1 hf.length_eq
    simp only [Option.bind_eq_bind, Option.bind_eq_some_iff, orElse?_eq_some_iff reads_text?,
      orElse?_eq_some_iff (reads_optional? reads_text?),
      orElse?_eq_some_iff (reads_items? reads_text?)] at h
    obtain ⟨code, hc, name, hn, lines, hl, ⟨⟩⟩ := h
    exact .intro hf hc hn hl
  · rintro ⟨hf, hc, hn, hl⟩
    refine ⟨_, fields?_eq_some_iff.2 hf, ?_⟩
    simp only [(orElse?_eq_some_iff reads_text?).2 hc,
      (orElse?_eq_some_iff (reads_optional? reads_text?)).2 hn,
      (orElse?_eq_some_iff (reads_items? reads_text?)).2 hl]
    rfl

theorem reads_page (announced rows : String) :
    Reads (Page.ofTree? announced rows) (IsPage announced rows) := by
  intro tree page
  rw [Page.ofTree?, Option.bind_eq_bind, Option.bind_eq_some_iff]
  constructor
  · rintro ⟨fields, hf, h⟩
    rw [fields?_eq_some_iff] at hf
    obtain ⟨number?, rows?, rfl⟩ := List.length_eq_two.1 hf.length_eq
    simp only [Option.bind_eq_bind, Option.bind_eq_some_iff, orElse?_eq_some_iff reads_count?,
      orElse?_eq_some_iff (reads_items? (reads_row? 3))] at h
    obtain ⟨number, hn, objects, hr, ⟨⟩⟩ := h
    exact .intro hf hn hr
  · rintro ⟨hf, hn, hr⟩
    refine ⟨_, fields?_eq_some_iff.2 hf, ?_⟩
    simp only [(orElse?_eq_some_iff reads_count?).2 hn,
      (orElse?_eq_some_iff (reads_items? (reads_row? 3))).2 hr]
    rfl

/-- The history that a reply gives, none inside where there is nothing to give. -/
def GivesHistory : Tree → Option History → Prop := Carries "data" 1 IsHistory

theorem reads_ofReply : Reads History.ofReply? GivesHistory := reads_content? reads_history "data" 1

/-- The page that a reply gives, none inside where there is nothing to give. -/
def PageSource.Gives (s : PageSource) : Tree → Option Page → Prop :=
  Carries s.field s.required (IsPage s.announced s.rows)

theorem PageSource.reads_decode (s : PageSource) : Reads s.decode s.Gives :=
  reads_content? (reads_page s.announced s.rows) s.field s.required

end MarketQuery.Provider
