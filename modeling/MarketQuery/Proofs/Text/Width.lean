import Mathlib.Data.List.Basic
import MarketQuery.Text.Width

/-!
# The width of a text and of its characters

A text is at most as wide as its characters one by one, but for those that take a column more in a
text than on their own: controls, and the selectors that widen the character before them.

* `charWidths`: the columns of characters one by one; `widens`: the exceptions;
* `placedRanges`, `one_le_cellWidth`: characters that take a column at least;
* `Context.slack`: the columns by which a text before a context may outgrow its characters;
* `merge_le`, `cost_measure_le`: no character adds more than it takes on its own, the slack of its
  context counted in;
* **`width_le`**: nor does a text.
-/

namespace MarketQuery.Text

open Width

/-- The columns that characters take on their own, taken together. -/
def charWidths : List Char → Nat
  | [] => 0
  | c :: rest => charWidth c + charWidths rest

theorem charWidths_append (cs ds : List Char) :
    charWidths (cs ++ ds) = charWidths cs + charWidths ds := by
  induction cs with
  | nil => rw [List.nil_append, charWidths, Nat.zero_add]
  | cons c cs ih => rw [List.cons_append, charWidths, charWidths, ih, Nat.add_assoc]

/-- The character takes a column in a text and none on its own, or a column more goes to the one
before it. -/
def widens (c : Char) : Bool := isControl c || c = '\ufe0f' || c = '\ufe01'

/-! ## Characters that take a column -/

namespace Ranges

/-- Each range of the first list lies in one of the second. -/
def Within (r s : Ranges) : Prop := ∀ a ∈ r, ∃ b ∈ s, b.1 ≤ a.1 ∧ a.2 ≤ b.2

/-- No range of the first list meets one of the second. -/
def Apart (r s : Ranges) : Prop := ∀ a ∈ r, ∀ b ∈ s, a.2 < b.1 ∨ b.2 < a.1

instance (r s : Ranges) : Decidable (r.Within s) := by
  unfold Within
  infer_instance

instance (r s : Ranges) : Decidable (r.Apart s) := by
  unfold Apart
  infer_instance

variable {r s : Ranges} {c : Char}

theorem contains_iff : r.contains c = true ↔ ∃ a ∈ r, a.1 ≤ c.toNat ∧ c.toNat ≤ a.2 := by
  simp [contains]

theorem Within.contains (h : r.Within s) (hc : r.contains c = true) : s.contains c = true := by
  obtain ⟨a, ha, hl, hu⟩ := contains_iff.1 hc
  obtain ⟨b, hb, hbl, hbu⟩ := h a ha
  exact contains_iff.2 ⟨b, hb, Nat.le_trans hbl hl, Nat.le_trans hu hbu⟩

theorem Apart.contains_eq_false (h : r.Apart s) (hc : r.contains c = true) :
    s.contains c = false := by
  obtain ⟨a, ha, hl, hu⟩ := contains_iff.1 hc
  refine Bool.eq_false_iff.2 fun hs => ?_
  obtain ⟨b, hb, hbl, hbu⟩ := contains_iff.1 hs
  rcases h a ha b hb with hlt | hlt <;> omega

end Ranges

/-- Stretches of characters that each have a place of their own. -/
def placedRanges : Ranges :=
  [(0x20, 0x7E), (0xA0, 0xAC), (0xAE, 0x2FF), (0x2010, 0x2029), (0x2030, 0x205F), (0x2100, 0x2CEE),
   (0x3030, 0x3098), (0x3165, 0xA66E), (0x16D68, 0x16D68), (0x1EA00, 0xDFFFF)]

theorem apart_placedRanges : placedRanges.Apart
    (extendingRanges ++ ignorableRanges ++ joiningJamoRanges ++ leadingMarkRanges ++
      recentMarkRanges) := by
  decide +kernel

variable {c : Char}

theorem one_le_cellWidth_of_not_isZeroWidth (h : isZeroWidth c = false) : 1 ≤ cellWidth c := by
  rw [cellWidth, if_neg (Bool.eq_false_iff.1 h)]
  split_ifs <;> omega

theorem one_le_cellWidth (h : placedRanges.contains c = true) : 1 ≤ cellWidth c := by
  have hnone := apart_placedRanges.contains_eq_false h
  simp only [Ranges.contains_append, Bool.or_eq_false_iff] at hnone
  refine one_le_cellWidth_of_not_isZeroWidth ?_
  simp [isZeroWidth, isExtending, hnone]

theorem one_le_of_isSelectable (h : isSelectable c = true) : 1 ≤ cellWidth c :=
  one_le_cellWidth (Ranges.Within.contains (by decide +kernel) h)

theorem one_le_of_isTextSelectable (h : isTextSelectable c = true) : 1 ≤ cellWidth c :=
  one_le_cellWidth (Ranges.Within.contains (by decide +kernel) h)

theorem one_le_of_isCurlyQuote (h : isCurlyQuote c = true) : 1 ≤ cellWidth c :=
  one_le_cellWidth (Ranges.Within.contains (by decide +kernel) h)

theorem one_le_of_isFlagLetter (h : isFlagLetter c = true) : 1 ≤ cellWidth c :=
  one_le_cellWidth (Ranges.Within.contains (by decide +kernel) h)

/-! ## Characters in view of what follows -/

/-- The columns by which what stands before may outgrow its characters: of a run of flag letters
before a joiner, the even ones take theirs back. -/
def Follower.slack : Follower → Int
  | joinedFlagEven => 2
  | _ => 0

/-- The columns by which what stands before a context may outgrow its characters. -/
def Context.slack (x : Context) : Int :=
  x.follower.slack + (if x.asPicture then 1 else 0) + if x.asWide then 1 else 0

variable {x : Context} {f g : Follower} {columns : Int}

theorem Follower.slack_nonneg (f : Follower) : 0 ≤ f.slack := by
  cases f <;> simp [slack]

theorem Follower.slack_ite {p : Prop} [Decidable p] (hf : f.slack = 0) (hg : g.slack = 0) :
    (if p then f else g).slack = 0 := by
  split
  · exact hf
  · exact hg

/-- What a character is on its own is no part of a run before a joiner. -/
theorem Follower.slack_ofChar (c : Char) : (ofChar c).slack = 0 := by
  unfold ofChar
  repeat
    refine slack_ite rfl ?_
  rfl

namespace Context

theorem slack_mk (f : Follower) (picture text wide : Bool) : slack ⟨f, picture, text, wide⟩ =
    f.slack + (if picture then 1 else 0) + if wide then 1 else 0 := rfl

theorem slack_nonneg (x : Context) : 0 ≤ x.slack := by
  have := x.follower.slack_nonneg
  rw [slack]
  split <;> split <;> omega

theorem one_le_slack_of_asPicture (h : x.asPicture = true) : 1 ≤ x.slack := by
  have := x.follower.slack_nonneg
  rw [slack, if_pos h]
  split <;> omega

theorem one_le_slack_of_asWide (h : x.asWide = true) : 1 ≤ x.slack := by
  have := x.follower.slack_nonneg
  rw [slack, if_pos h]
  split <;> omega

theorem slack_dropPicture_le (x : Context) : x.dropPicture.slack ≤ x.slack := by
  have hnonneg := x.slack_nonneg
  unfold dropPicture
  split
  · obtain ⟨f, picture, text, wide⟩ := x
    cases picture <;> simp only [slack_mk] <;> grind
  · exact hnonneg

theorem slack_selectPicture_le (x : Context) : x.selectPicture.slack ≤ x.slack + 1 := by
  have hnonneg := x.slack_nonneg
  unfold selectPicture
  split
  · obtain ⟨f, picture, text, wide⟩ := x
    cases picture <;> simp only [slack_mk] <;> grind
  · exact Int.add_le_add_right hnonneg 1

theorem slack_selectText_le (x : Context) : x.selectText.slack ≤ x.slack := by
  have hnonneg := x.slack_nonneg
  unfold selectText
  split
  · exact Int.le_refl _
  · exact hnonneg

theorem slack_selectWide_le (x : Context) : x.selectWide.slack ≤ x.slack + 1 := by
  have hnonneg := x.slack_nonneg
  unfold selectWide
  split
  · obtain ⟨f, picture, text, wide⟩ := x
    cases wide <;> simp only [slack_mk] <;> grind
  · exact Int.add_le_add_right hnonneg 1

/-- Without a selector before it a context lets no more grow, nor does it with a lesser follower. -/
theorem slack_settle_le (x : Context) (hf : f.slack ≤ x.follower.slack) :
    slack { x with follower := f, asText := false, asWide := false } ≤ x.slack := by
  obtain ⟨g, picture, text, wide⟩ := x
  simp only [slack_mk] at hf ⊢
  cases wide <;> simp <;> omega

theorem slack_ofChar (hp : c ≠ '\ufe0f') (hw : c ≠ '\ufe01') : (ofChar c).slack = 0 := by
  unfold ofChar
  rw [if_neg hp, if_neg hw]
  split
  · rfl
  · rw [slack_mk, Follower.slack_ofChar]
    rfl

end Context

theorem merge_le (h : merge c f = some (columns, g)) :
    columns + g.slack ≤ cellWidth c + f.slack := by
  have hflag := one_le_of_isFlagLetter (c := c)
  have hjoiner : c = '\u2d7f' → 1 ≤ cellWidth c := by
    rintro rfl
    decide +kernel
  have hvowel : c.toNat = 0x16D68 → 1 ≤ cellWidth c := fun h =>
    one_le_cellWidth (Ranges.contains_iff.2 ⟨(0x16D68, 0x16D68), by decide, by omega, by omega⟩)
  unfold merge at h
  split at h
  case h_21 => cases h
  all_goals split_ifs at h <;> cases h <;> simp only [Follower.slack] <;> grind

/-- The columns that a character adds, with those by which its context lets a text outgrow its
characters. -/
def cost (added : Int × Context) : Int := added.1 + added.2.slack

theorem cost_mk (columns : Int) (x : Context) : cost (columns, x) = columns + x.slack := rfl

theorem cost_measureMerging_le (hp : c ≠ '\ufe0f') (hw : c ≠ '\ufe01') :
    cost (measureMerging c x) ≤ cellWidth c + x.slack := by
  unfold measureMerging
  split
  case h_1 columns follower h =>
    have := merge_le h
    simp only [cost_mk, Context.slack]
    omega
  case h_2 =>
    have := x.slack_nonneg
    rw [cost_mk, Context.slack_ofChar hp hw]
    omega

/-- The columns that a character may add: those it takes on its own, and one more if it widens. -/
def allowance (c : Char) : Int := charWidth c + if widens c then 1 else 0

theorem one_le_allowance_of_widens (h : widens c = true) : 1 ≤ allowance c := by
  rw [allowance, if_pos h]
  omega

theorem cellWidth_le_allowance (h : isControl c = false) : cellWidth c ≤ allowance c := by
  rw [allowance, charWidth, if_neg (Bool.eq_false_iff.1 h)]
  split <;> omega

theorem one_le_allowance (h : 1 ≤ cellWidth c) : 1 ≤ allowance c := by
  cases hc : isControl c with
  | true => exact one_le_allowance_of_widens (by simp [widens, hc])
  | false =>
    have := cellWidth_le_allowance hc
    omega

theorem one_le_allowance_of_le (h : c.toNat ≤ 0xa0) : 1 ≤ allowance c := by
  cases hc : isControl c with
  | true => exact one_le_allowance_of_widens (by simp [widens, hc])
  | false =>
    have hplace : placedRanges.contains c = true := by
      simp only [isControl, Bool.or_eq_false_iff, Bool.and_eq_false_iff, decide_eq_false_iff_not,
        Nat.not_lt, Nat.not_le] at hc
      refine Ranges.contains_iff.2 ?_
      rcases hc.2 with hu | hl
      · exact ⟨(0x20, 0x7E), by decide, hc.1, Nat.le_of_lt_succ hu⟩
      · exact ⟨(0xA0, 0xAC), by decide, hl, Nat.le_trans h (by decide)⟩
    exact one_le_allowance (one_le_cellWidth hplace)

theorem cost_measureLatin_le (h : c.toNat ≤ 0xa0) :
    cost (measureLatin c x) ≤ allowance c + x.slack := by
  have hslack := x.slack_nonneg
  have hone := one_le_allowance_of_le h
  unfold measureLatin
  split
  · exact Int.add_le_add hone hslack
  · split
    · exact Int.add_le_add (Int.le_trans (by decide) hone) hslack
    · exact Int.add_le_add hone hslack

theorem cost_measureBeyond_le (h : 0xa0 < c.toNat) :
    cost (measureBeyond c x) ≤ allowance c + x.slack := by
  have hslack := x.slack_nonneg
  have hnonneg : (0 : Int) ≤ cellWidth c := Int.natCast_nonneg _
  have hcell : cellWidth c ≤ allowance c := by
    refine cellWidth_le_allowance ?_
    simp only [isControl, Bool.or_eq_false_iff, Bool.and_eq_false_iff, decide_eq_false_iff_not]
    omega
  unfold measureBeyond
  split
  case isTrue hc =>
    have := one_le_allowance_of_widens (c := c) (by simp [widens, hc])
    have := x.slack_selectPicture_le
    rw [cost_mk]
    omega
  case isFalse hp =>
  split
  case isTrue =>
    have := x.slack_selectText_le
    rw [cost_mk]
    omega
  case isFalse =>
  split
  case isTrue hc =>
    have := one_le_allowance_of_widens (c := c) (by simp [widens, hc])
    have := x.slack_selectWide_le
    rw [cost_mk]
    omega
  case isFalse hw =>
  split
  case isTrue hc =>
    have := one_le_of_isTextSelectable (Bool.and_eq_true_iff.1 hc).2
    have : Context.slack {} = 0 := rfl
    rw [cost_mk]
    omega
  case isFalse =>
  split
  case isTrue hc =>
    obtain ⟨hwide, hquote⟩ := Bool.and_eq_true_iff.1 hc
    have := one_le_of_isCurlyQuote hquote
    have : Context.slack {} = 0 := rfl
    have : 1 ≤ x.slack := Context.one_le_slack_of_asWide hwide
    rw [cost_mk]
    omega
  case isFalse =>
  have hsettle := x.slack_settle_le (Int.le_refl x.follower.slack)
  have hmerging :=
    cost_measureMerging_le (x := { x with asText := false, asWide := false }) hp hw
  dsimp only
  split
  case h_1 sign joined hfollower =>
    have hligature (joined : Bool) :=
      x.slack_settle_le (f := .ligature sign joined) x.follower.slack_nonneg
    split
    · have := hligature true
      rw [cost_mk]
      omega
    · split
      · have := hligature joined
        rw [cost_mk]
        omega
      · omega
  case h_2 => omega

/-- A character adds at most the columns that it takes on its own, and one more if it widens. -/
theorem cost_measure_le (c : Char) (x : Context) : cost (measure c x) ≤ allowance c + x.slack := by
  unfold measure
  split
  case isTrue h =>
    obtain ⟨hpicture, hselectable⟩ := Bool.and_eq_true_iff.1 h
    have := Context.one_le_slack_of_asPicture hpicture
    have := one_le_allowance (one_le_of_isSelectable hselectable)
    have : Context.slack { follower := .pictograph } = 0 := rfl
    rw [cost_mk]
    split <;> omega
  case isFalse =>
    have hdrop : Context.slack (if x.asPicture = true then x.dropPicture else x) ≤ x.slack := by
      split
      · exact x.slack_dropPicture_le
      · exact Int.le_refl _
    dsimp only
    split
    case isTrue h =>
      have := cost_measureLatin_le (x := if x.asPicture then x.dropPicture else x) h
      omega
    case isFalse h =>
      have := cost_measureBeyond_le (x := if x.asPicture then x.dropPicture else x)
        (Nat.lt_of_not_le h)
      omega

theorem measureAll_cons (c : Char) (cs : List Char) :
    measureAll (c :: cs) = ((measureAll cs).1 + (measure c (measureAll cs).2).1,
      (measure c (measureAll cs).2).2) := rfl

theorem cost_measureAll_le (cs : List Char) :
    cost (measureAll cs) ≤ charWidths cs + cs.countP widens := by
  induction cs with
  | nil => decide
  | cons c cs ih =>
    have h := cost_measure_le c (measureAll cs).2
    rw [measureAll_cons, charWidths, List.countP_cons]
    simp only [cost, allowance] at h ih ⊢
    push_cast
    split_ifs at h ⊢ <;> omega

/-- **A text is at most as wide as its characters one by one**, and one column more for each that
widens. -/
theorem width_le (s : String) : width s ≤ charWidths s.toList + s.toList.countP widens := by
  have h := cost_measureAll_le s.toList
  have hslack := (measureAll s.toList).2.slack_nonneg
  rw [width]
  simp only [cost] at h
  omega

end MarketQuery.Text
