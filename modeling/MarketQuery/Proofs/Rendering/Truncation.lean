import MarketQuery.Proofs.Text.Width
import MarketQuery.Rendering.Column

/-!
# Cut texts

A text that is wider than the limit is cut. What is kept of it is the longest piece at its start
that has room before three dots, its characters being measured one by one. As a text may be wider
than its characters, a cut text may still be wider than the limit.

* `IsLongestWithin`: the longest piece at the start of a text that takes at most so many columns;
* `isLongestWithin_takeColumns`: it is what a cut text keeps;
* `truncate_of_fits`, `truncate_of_exceeds`: texts that are shown whole and texts that are cut;
* **`truncate_keeps_most`**: a text is shown whole or cut as late as its characters allow;
* **`width_truncate_le`**: but for characters that widen it, a cut text keeps to the limit.
-/

namespace MarketQuery.Rendering

open Text

/-- The longest piece at the start of a text whose characters take at most so many columns. -/
structure IsLongestWithin (budget : Nat) (text piece : List Char) : Prop where
  starts : piece <+: text
  fits : charWidths piece ≤ budget
  longest : ∀ other, other <+: text → charWidths other ≤ budget → other.length ≤ piece.length

variable {budget limit : Nat} {s : String} {text piece other : List Char}

theorem IsLongestWithin.unique (h : IsLongestWithin budget text piece)
    (h' : IsLongestWithin budget text other) : piece = other :=
  (List.prefix_of_prefix_length_le h.starts h'.starts (h'.longest _ h.starts h.fits)).eq_of_length
    (Nat.le_antisymm (h'.longest _ h.starts h.fits) (h.longest _ h'.starts h'.fits))

theorem isLongestWithin_takeColumns (budget : Nat) (text : List Char) :
    IsLongestWithin budget text (takeColumns budget text) := by
  induction text generalizing budget with
  | nil =>
    exact ⟨List.nil_prefix, Nat.zero_le _, fun _ ho _ => List.IsPrefix.length_le ho⟩
  | cons c rest ih =>
    rw [takeColumns]
    split
    case isTrue hc =>
      obtain ⟨hstarts, hfits, hlongest⟩ := ih (budget - charWidth c)
      refine ⟨List.cons_prefix_cons.2 ⟨rfl, hstarts⟩, ?_, fun other ho hbudget => ?_⟩
      · rw [charWidths]
        omega
      · cases other with
        | nil => exact Nat.zero_le _
        | cons d other =>
          obtain ⟨rfl, hrest⟩ := List.cons_prefix_cons.1 ho
          rw [charWidths] at hbudget
          exact Nat.succ_le_succ (hlongest other hrest (by omega))
    case isFalse hc =>
      -- The first character overflows, and with it every piece that is not empty.
      refine ⟨List.nil_prefix, Nat.zero_le _, fun other ho hbudget => ?_⟩
      cases other with
      | nil => exact Nat.le_refl _
      | cons d other =>
        obtain ⟨rfl, -⟩ := List.cons_prefix_cons.1 ho
        rw [charWidths] at hbudget
        omega

/-! ## Texts shown whole and texts that are cut -/

theorem truncate_of_fits (h : limit = 0 ∨ width s ≤ limit) : truncate limit s = s := by
  rw [truncate, if_pos (by simpa using h)]

theorem truncate_of_exceeds (h : ¬ (limit = 0 ∨ width s ≤ limit)) :
    truncate limit s = String.ofList (takeColumns (limit - 3) s.toList) ++ "..." := by
  rw [truncate, if_neg (by simpa using h), String.ofList_append]

theorem charWidths_truncate_le (h : ¬ (limit = 0 ∨ width s ≤ limit)) (hlimit : 3 ≤ limit) :
    charWidths (truncate limit s).toList ≤ limit := by
  have hfits := (isLongestWithin_takeColumns (limit - 3) s.toList).fits
  have hdots : charWidths "...".toList = 3 := by decide +kernel
  rw [truncate_of_exceeds h, String.toList_append, String.toList_ofList, charWidths_append, hdots]
  omega

/-- **A text is shown whole, or cut as late as its characters allow.** It is shown whole if there is
no limit or the text does not exceed it. Else the longest piece at its start is kept that leaves
room for the three dots behind it, and with them it takes no more columns than the limit, if the
limit has room for the dots at all. The text comes back unchanged from a cut if the dots stand for
its own. -/
theorem truncate_keeps_most (limit : Nat) (s : String) :
    (limit = 0 ∨ width s ≤ limit → truncate limit s = s) ∧
    (limit ≠ 0 ∧ limit < width s → ∃ piece, IsLongestWithin (limit - 3) s.toList piece ∧
      truncate limit s = String.ofList piece ++ "..." ∧
      (3 ≤ limit → charWidths (truncate limit s).toList ≤ limit)) ∧
    (truncate limit s = s ↔ (limit = 0 ∨ width s ≤ limit) ∨
      ∃ piece, IsLongestWithin (limit - 3) s.toList piece ∧ s = String.ofList piece ++ "...") := by
  have hpiece := isLongestWithin_takeColumns (limit - 3) s.toList
  refine ⟨truncate_of_fits, fun ⟨hlimit, hwidth⟩ => ?_, fun h => ?_, ?_⟩
  · have hexceeds : ¬ (limit = 0 ∨ width s ≤ limit) := by omega
    exact ⟨_, hpiece, truncate_of_exceeds hexceeds, charWidths_truncate_le hexceeds⟩
  · refine or_iff_not_imp_left.2 fun hexceeds => ⟨_, hpiece, ?_⟩
    rw [← truncate_of_exceeds hexceeds, h]
  · rintro (hfits | ⟨piece, hlongest, hs⟩)
    · exact truncate_of_fits hfits
    · by_cases hfits : limit = 0 ∨ width s ≤ limit
      · exact truncate_of_fits hfits
      · rw [truncate_of_exceeds hfits, hpiece.unique hlongest]
        exact hs.symm

/-- Three dots are cut to themselves. -/
theorem truncate_dots : truncate 2 "..." = "..." ∧ ¬ (2 = 0 ∨ width "..." ≤ 2) := by
  decide +kernel

/-! ## Cut texts on a terminal -/

/-- **A cut text keeps to the limit but for the characters that widen it**, a column for each
control and each selector of a wide form that is kept. -/
theorem width_truncate_le (hlimit : 3 ≤ limit) (s : String) :
    width (truncate limit s) ≤ limit + (truncate limit s).toList.countP widens := by
  by_cases h : limit = 0 ∨ width s ≤ limit
  · have hfits : width s ≤ limit := h.resolve_left (by omega)
    rw [truncate_of_fits h]
    exact Nat.le_add_right_of_le hfits
  · have hcut := charWidths_truncate_le h hlimit
    calc width (truncate limit s)
        ≤ charWidths (truncate limit s).toList + (truncate limit s).toList.countP widens :=
          width_le _
      _ ≤ limit + (truncate limit s).toList.countP widens := Nat.add_le_add_right hcut _

theorem width_truncate_le_wide :
    3 ≤ 8 ∧ truncate 8 "这是一个长字符串" = "这是..." ∧
      width (truncate 8 "这是一个长字符串") ≤ 8 + "这是...".toList.countP widens := by
  have hlimit : 3 ≤ 8 := by decide
  have htext : truncate 8 "这是一个长字符串" = "这是..." := by decide +kernel
  have hle := width_truncate_le hlimit "这是一个长字符串"
  refine ⟨hlimit, htext, ?_⟩
  rwa [htext] at hle ⊢

/-- Six hearts, each drawn as a picture, are cut to a limit of eight and take thirteen columns. -/
theorem lt_width_truncate_hearts : 8 < width (truncate 8 "❤️❤️❤️❤️❤️❤️") := by
  decide +kernel

end MarketQuery.Rendering
