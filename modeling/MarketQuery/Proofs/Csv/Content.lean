import MarketQuery.Proofs.Csv.Reader
import MarketQuery.Proofs.Number.Characters

/-!
# The content of a file with comma-separated values

* `texts`: the texts of the records of a table, the names first;
* `field_eq_escape`: numbers and truth values need no quotes;
* `encode_eq`: the content is the byte order mark with the lines of these records behind it;
* `readRecords?_of_encode`: read without the mark it gives them back.
-/

namespace MarketQuery.Csv

/-- The texts of the records of a table: the names of the columns, then the texts of each row. -/
def texts (t : Table) : List (List String) := t.columns :: t.rows.map (·.map cellText)

theorem isSpecial_of_isNumeric {c : Char} (h : Number.IsNumeric c) : isSpecial c = false := by
  rw [isSpecial, Bool.or_eq_false_iff, Bool.or_eq_false_iff, Bool.or_eq_false_iff]
  have hne : ∀ d : Char, ¬ Number.IsNumeric d → decide (c = d) = false := fun d hd =>
    decide_eq_false fun e => hd (e ▸ h)
  refine ⟨⟨⟨hne _ ?_, hne _ ?_⟩, hne _ ?_⟩, hne _ ?_⟩ <;> simp [Number.IsNumeric]

theorem any_isSpecial_cellText {c : Cell} (h : ∀ s, c ≠ .text s) :
    (cellText c).toList.any isSpecial = false := by
  cases c with
  | null => rfl
  | bool b => cases b <;> decide
  | int n =>
    refine List.any_eq_false.2 fun c hc => ?_
    rw [cellText, intText, String.toList_ofList] at hc
    simp [isSpecial_of_isNumeric (Number.isNumeric_of_mem_ofInt hc)]
  | float x =>
    cases x with
    | nan => rfl
    | infinite negative => cases negative <;> decide
    | finite negative code =>
      refine List.any_eq_false.2 fun c hc => ?_
      simp [isSpecial_of_isNumeric (Number.isNumeric_of_mem_write hc)]
  | text s => exact absurd rfl (h s)

theorem field_eq_escape (c : Cell) : field c = escape (cellText c).toList := by
  cases c with
  | text s => rfl
  | null | bool | int | float =>
    rw [escape, any_isSpecial_cellText (by simp)]
    rfl

theorem fields_eq (t : Table) :
    fields t = (texts t).map fun texts => texts.map fun s => escape s.toList := by
  simp only [fields, texts, List.map_cons, List.map_map, List.cons.injEq, true_and]
  refine List.map_congr_left fun row _ => ?_
  simp only [Function.comp_apply, List.map_map]
  exact List.map_congr_left fun c _ => field_eq_escape c

theorem encode_eq (t : Table) : encode t = "\ufeff" ++ String.ofList ((texts t).flatMap line) := by
  have hline : ∀ texts : List String,
      [record (texts.map fun s => escape s.toList), "\n"].flatMap String.toList = line texts := by
    intro texts
    simp [record, line]
  rw [← String.toList_inj, encode, parts, String.join_cons, fields_eq]
  simp only [mark, String.toList_append, String.toList_join, String.toList_ofList,
    List.flatMap_map, List.flatMap_assoc, hline]

theorem texts_ne_nil {t : Table} (ht : t.columns ≠ []) : ∀ record ∈ texts t, record ≠ [] := by
  intro record h
  rcases List.mem_cons.1 h with rfl | h
  · exact ht
  · obtain ⟨row, hrow, rfl⟩ := List.mem_map.1 h
    have := t.width row hrow
    rw [ne_eq, List.map_eq_nil_iff, ← List.length_eq_zero_iff, this, List.length_eq_zero_iff]
    exact ht

theorem readRecords?_of_encode {t : Table} (ht : t.columns ≠ []) {body : String}
    (h : encode t = "\ufeff" ++ body) : readRecords? body.toList = some (texts t) := by
  rw [encode_eq] at h
  obtain rfl := String.append_right_inj _ |>.1 h
  rw [String.toList_ofList, readRecords?_lines (texts_ne_nil ht)]

end MarketQuery.Csv
