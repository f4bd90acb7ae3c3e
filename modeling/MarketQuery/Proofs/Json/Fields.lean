import MarketQuery.Json.Field
import MarketQuery.Proofs.Cell.NumberText

/-!
# Cells of JSON fields

* `OfNumberField`, `numberCell_eq_iff`: the cell of a field that should hold a number;
* `OfTextField`, `textCell_eq_iff`: the cell of a field that should hold a text.
-/

namespace MarketQuery.Json

/-- The field is missing, or holds neither a number nor a text nor a truth value. -/
inductive HoldsNothing : Option Value → Prop
  | missing : HoldsNothing none
  | null : HoldsNothing (some .null)
  | array (items : List Value) : HoldsNothing (some (.array items))
  | object (members : List (String × Value)) : HoldsNothing (some (.object members))

/-- The cell of a field that should hold a number, bare or as text. -/
inductive OfNumberField : Option Value → Cell → Prop
  | integer (n : Int64) : OfNumberField (some (.number (.integer n.toInt))) (.int n)
  | beyond {z : Int} (h : ∀ n : Int64, n.toInt ≠ z) :
      OfNumberField (some (.number (.integer z))) (.float (.ofInt z))
  | float (x : Binary64) : OfNumberField (some (.number (.float x))) (.float x)
  | text {s : String} {c : Cell} (h : Cell.OfNumberText s c) :
      OfNumberField (some (.string s)) c
  | truth (b : Bool) : OfNumberField (some (.bool b)) .null
  | nothing {v? : Option Value} (h : HoldsNothing v?) : OfNumberField v? .null

/-- The cell of a field that should hold a text. -/
inductive OfTextField : Option Value → Cell → Prop
  | text {s : String} (hempty : s ≠ "") (hdash : s ≠ "-") : OfTextField (some (.string s)) (.text s)
  | placeholder {s : String} (h : s = "" ∨ s = "-") : OfTextField (some (.string s)) .null
  | number (n : Number) : OfTextField (some (.number n)) (.text n.display)
  | truth (b : Bool) : OfTextField (some (.bool b)) (.bool b)
  | nothing {v? : Option Value} (h : HoldsNothing v?) : OfTextField v? .null

variable {v? : Option Value} {c : Cell}

theorem numberCell_of (h : OfNumberField v? c) : numberCell v? = c := by
  cases h with
  | integer n =>
    have hfits : Number.fitsInt64 n.toInt = true := Number.fitsInt64_iff.2 ⟨n, rfl⟩
    rw [numberCell, Number.cell, if_pos hfits, Int64.ofInt_toInt]
  | beyond h =>
    rw [numberCell, Number.cell, if_neg]
    exact fun hfits => Exists.elim (Number.fitsInt64_iff.1 hfits) h
  | float x => rfl
  | text h => exact Cell.ofNumberText_of h
  | truth b => rfl
  | nothing h => cases h <;> rfl

/-- Every field has a cell as a number. -/
theorem exists_ofNumberField (v? : Option Value) : ∃ c, OfNumberField v? c := by
  cases v? with
  | none => exact ⟨_, .nothing .missing⟩
  | some v =>
    cases v with
    | null => exact ⟨_, .nothing .null⟩
    | bool b => exact ⟨_, .truth b⟩
    | string s =>
      obtain ⟨c, hc⟩ := Cell.exists_ofNumberText s
      exact ⟨c, .text hc⟩
    | array items => exact ⟨_, .nothing (.array items)⟩
    | object members => exact ⟨_, .nothing (.object members)⟩
    | number n =>
      cases n with
      | float x => exact ⟨_, .float x⟩
      | integer z =>
        by_cases h : ∃ n : Int64, n.toInt = z
        · obtain ⟨n, rfl⟩ := h
          exact ⟨_, .integer n⟩
        · exact ⟨_, .beyond (not_exists.1 h)⟩

theorem numberCell_eq_iff : numberCell v? = c ↔ OfNumberField v? c :=
  Number.eq_iff_of_exists (exists_ofNumberField v?) fun _ => numberCell_of

theorem isPlaceholder_toList_iff {s : String} :
    Cell.isPlaceholder s.toList = true ↔ s = "" ∨ s = "-" := by
  rw [Cell.isPlaceholder, Bool.or_eq_true, decide_eq_true_iff, decide_eq_true_iff,
    ← String.toList_inj, ← String.toList_inj]
  rfl

theorem textCell_of (h : OfTextField v? c) : textCell v? = c := by
  cases h with
  | text hempty hdash =>
    exact if_neg fun h => (isPlaceholder_toList_iff.1 h).elim hempty hdash
  | placeholder h => exact if_pos (isPlaceholder_toList_iff.2 h)
  | number n => rfl
  | truth b => rfl
  | nothing h => cases h <;> rfl

/-- Every field has a cell as a text. -/
theorem exists_ofTextField (v? : Option Value) : ∃ c, OfTextField v? c := by
  cases v? with
  | none => exact ⟨_, .nothing .missing⟩
  | some v =>
    cases v with
    | null => exact ⟨_, .nothing .null⟩
    | bool b => exact ⟨_, .truth b⟩
    | number n => exact ⟨_, .number n⟩
    | array items => exact ⟨_, .nothing (.array items)⟩
    | object members => exact ⟨_, .nothing (.object members)⟩
    | string s =>
      by_cases h : s = "" ∨ s = "-"
      · exact ⟨_, .placeholder h⟩
      · exact ⟨_, .text (fun he => h (.inl he)) fun hd => h (.inr hd)⟩

theorem textCell_eq_iff : textCell v? = c ↔ OfTextField v? c :=
  Number.eq_iff_of_exists (exists_ofTextField v?) fun _ => textCell_of

end MarketQuery.Json
