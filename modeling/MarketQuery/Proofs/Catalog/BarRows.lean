import Mathlib.Tactic.IntervalCases
import MarketQuery.Proofs.Catalog.Tables
import MarketQuery.Proofs.Cell.NumberText
import MarketQuery.Proofs.Table.Operations
import MarketQuery.Proofs.Text.Split

/-!
# Rows of bars

A line becomes a row if it has all eleven fields, and every field goes to a cell of its own.

* `field?`, `IsBarRow`: the fields of a line, and the row of them;
* `barRow?_eq_none`, `exists_isBarRow`: a line with too few fields has no row, any other has one;
* `barRow?_append`: fields behind the eleventh do not count;
* `exists_barRows`: lines make a table, with a row for each that has all fields;
* **`barTable_rows`**: what has too few fields, and what stands behind the eleventh, is without
  effect on it.
-/

namespace MarketQuery

theorem forall₂_filterMap {α β : Type} {R : α → β → Prop} {p : α → Bool} {f : α → Option β}
    (hnone : ∀ a, p a = false → f a = none) (hsome : ∀ a, p a = true → ∃ b, f a = some b ∧ R a b)
    (l : List α) : List.Forall₂ R (l.filter p) (l.filterMap f) := by
  induction l with
  | nil => exact .nil
  | cons a l ih =>
    cases hp : p a with
    | false =>
      rw [List.filter_cons_of_neg (Bool.eq_false_iff.1 hp), List.filterMap_cons_none (hnone a hp)]
      exact ih
    | true =>
      obtain ⟨b, hb, hr⟩ := hsome a hp
      rw [List.filter_cons_of_pos hp, List.filterMap_cons_some hb]
      exact .cons hr ih

namespace Catalog

open Text

/-- The field of a line at a place, counted from 0. -/
def field? (line : String) (place : Nat) : Option String :=
  (line.toList.splitOn ',')[place]?.map .ofList

/-- The line has at least eleven fields. -/
def isWhole (line : String) : Bool := 10 ≤ line.toList.count ','

/-- The row of a line: the date, the symbol if there is a column for it, and a cell for each of the
ten fields behind the date. The fifth of them is the volume. -/
structure IsBarRow (symbol? : Option (String × String)) (line : String) (row : List Cell) :
    Prop where
  length : row.length = 11 + symbol?.toList.length
  date : ∃ date, field? line 0 = some date ∧ row[0]? = some (.text date)
  symbol : ∀ symbol ∈ symbol?, row[1]? = some (.text symbol.2)
  measured : ∀ place, 1 ≤ place → place ≤ 10 → place ≠ 5 → ∃ field c,
    field? line place = some field ∧ row[place + symbol?.toList.length]? = some c ∧
      Cell.OfMeasureText field c
  volume : ∃ field c, field? line 5 = some field ∧
    row[5 + symbol?.toList.length]? = some c ∧ Cell.OfNumberText field c

variable {symbol? : Option (String × String)} {line : String}

/-! ## One line -/

theorem exists_fields (line : String) : ∃ date fields,
    line.toList.splitOn ',' = date :: fields ∧ fields.length = line.toList.count ',' := by
  obtain ⟨date, fields, h⟩ := List.exists_cons_of_ne_nil (List.splitOn_ne_nil ',' line.toList)
  have hlength := length_splitOn ',' line.toList
  rw [h, List.length_cons] at hlength
  exact ⟨date, fields, h, Nat.succ_injective hlength⟩

/-- The cell of a field, by the measure that it is of. -/
def measureCell (measure : String × (Cell → Cell)) (field : List Char) : Cell :=
  measure.2 (.ofNumberText (.ofList field))

theorem barRow?_of_fields {date : List Char} {fields : List (List Char)}
    (h : line.toList.splitOn ',' = date :: fields) : barRow? symbol? line =
      if 10 ≤ fields.length then
        some (.text (.ofList date) :: symbol?.toList.map (.text ·.2) ++
          List.zipWith measureCell barMeasures fields)
      else none := by
  rw [barRow?, splitAt_eq_splitOn, h]
  rfl

theorem barRow?_eq_none (h : isWhole line = false) : barRow? symbol? line = none := by
  obtain ⟨date, fields, hfields, hlength⟩ := exists_fields line
  rw [barRow?_of_fields hfields, if_neg]
  rw [hlength]
  exact of_decide_eq_false h

/-- The volume is taken as it is, and all else as a float. -/
theorem snd_barMeasures {j : Nat} (hj : j < 10) :
    barMeasures[j]?.map (·.2) = some (if j = 4 then id else Cell.asFloat) := by
  interval_cases j <;> rfl

theorem getElem?_measureCells {fields : List (List Char)} (hlength : 10 ≤ fields.length) {j : Nat}
    (hj : j < 10) : ∃ field, fields[j]? = some field ∧
      (List.zipWith measureCell barMeasures fields)[j]? =
        some ((if j = 4 then id else Cell.asFloat) (.ofNumberText (.ofList field))) := by
  obtain ⟨measure, hmeasure, hcell⟩ := Option.map_eq_some_iff.1 (snd_barMeasures hj)
  have hfield : fields[j]? = some fields[j] := List.getElem?_eq_getElem (by omega)
  refine ⟨_, hfield, ?_⟩
  rw [List.getElem?_zipWith, hmeasure, hfield, ← hcell]
  rfl

theorem exists_isBarRow (symbol? : Option (String × String)) (h : isWhole line = true) :
    ∃ row, barRow? symbol? line = some row ∧ IsBarRow symbol? line row := by
  obtain ⟨date, fields, hfields, hlength⟩ := exists_fields line
  have hten : 10 ≤ fields.length := hlength ▸ of_decide_eq_true h
  have hfield (j : Nat) : field? line (j + 1) = fields[j]?.map .ofList := by
    rw [field?, hfields, List.getElem?_cons_succ]
  -- Behind the date and the symbol stand the cells of the other fields.
  have hcell (j : Nat) : (Cell.text (.ofList date) :: symbol?.toList.map (.text ·.2) ++
      List.zipWith measureCell barMeasures fields)[j + 1 + symbol?.toList.length]? =
        (List.zipWith measureCell barMeasures fields)[j]? := by
    have hplace : j + 1 + symbol?.toList.length =
        (Cell.text (.ofList date) :: symbol?.toList.map (.text ·.2)).length + j := by
      rw [List.length_cons, List.length_map]
      omega
    rw [hplace, List.getElem?_append_right (Nat.le_add_right _ _), Nat.add_sub_cancel_left]
  refine ⟨_, (barRow?_of_fields hfields).trans (if_pos hten), ?_, ?_, ?_, ?_, ?_⟩
  · have hmeasures : (List.zipWith measureCell barMeasures fields).length = 10 :=
      List.length_zipWith.trans (Nat.min_eq_left hten)
    rw [List.length_append, List.length_cons, List.length_map, hmeasures]
    omega
  · exact ⟨.ofList date, by rw [field?, hfields]; rfl, rfl⟩
  · rintro symbol rfl
    rfl
  · intro place hl hu hne
    obtain ⟨j, rfl⟩ : ∃ j, place = j + 1 := ⟨place - 1, by omega⟩
    obtain ⟨field, hf, hc⟩ := getElem?_measureCells hten (j := j) (by omega)
    rw [if_neg (by omega)] at hc
    exact ⟨.ofList field, _, by rw [hfield, hf]; rfl, (hcell j).trans hc,
      Cell.asFloat_ofNumberText_eq_iff.1 rfl⟩
  · obtain ⟨field, hf, hc⟩ := getElem?_measureCells hten (j := 4) (by omega)
    exact ⟨.ofList field, _, by rw [hfield, hf]; rfl, (hcell 4).trans hc,
      Cell.ofNumberText_eq_iff.1 rfl⟩

theorem zipWith_append_of_le {α β γ : Type} (f : α → β → γ) {l : List α} {l' : List β}
    (h : l.length ≤ l'.length) (more : List β) :
    List.zipWith f l (l' ++ more) = List.zipWith f l l' := by
  induction l generalizing l' with
  | nil => rfl
  | cons a l ih =>
    cases l' with
    | nil => cases h
    | cons b l' => exact congrArg (f a b :: ·) (ih (Nat.le_of_succ_le_succ h))

/-- Fields behind the eleventh do not count. -/
theorem barRow?_append (symbol? : Option (String × String)) (h : isWhole line = true)
    (more : String) : barRow? symbol? (line ++ "," ++ more) = barRow? symbol? line := by
  obtain ⟨date, fields, hfields, hlength⟩ := exists_fields line
  have hten : 10 ≤ fields.length := hlength ▸ of_decide_eq_true h
  have hmore : (line ++ "," ++ more).toList.splitOn ',' =
      date :: (fields ++ more.toList.splitOn ',') := by
    rw [String.toList_append, String.toList_append, List.append_assoc]
    exact (List.splitOn_append_cons_self _ _).trans (congrArg (· ++ _) hfields)
  have hle : barMeasures.length ≤ fields.length := hten
  have hcells : List.zipWith measureCell barMeasures (fields ++ more.toList.splitOn ',') =
      List.zipWith measureCell barMeasures fields := zipWith_append_of_le _ hle _
  rw [barRow?_of_fields hmore, barRow?_of_fields hfields, if_pos hten,
    if_pos (by rw [List.length_append]; omega), hcells]

/-! ## Tables of lines -/

theorem nodup_barColumns (h : ∀ symbol ∈ symbol?, symbol.1 ∉ barColumns none) :
    (barColumns symbol?).Nodup := by
  have hbars : (barColumns none).Nodup := by decide
  cases symbol? with
  | none => exact hbars
  | some symbol =>
    have hswap : (barColumns (some symbol)).Perm (symbol.1 :: barColumns none) := .swap ..
    exact hswap.nodup_iff.2 (List.nodup_cons.2 ⟨h symbol rfl, hbars⟩)

theorem barTable_congr {lines lines' : List String}
    (h : lines.filterMap (barRow? symbol?) = lines'.filterMap (barRow? symbol?)) :
    barTable symbol? lines = barTable symbol? lines' := by
  rw [barTable, barTable, h]

theorem exists_barRows (h : ∀ symbol ∈ symbol?, symbol.1 ∉ barColumns none)
    (lines : List String) : ∃ t, barTable symbol? lines = .ok t ∧ t.columns = barColumns symbol? ∧
      List.Forall₂ (IsBarRow symbol?) (lines.filter isWhole) t.rows := by
  obtain ⟨t, ht, hcolumns⟩ := exists_barTable (nodup_barColumns h) lines
  refine ⟨t, ht, hcolumns, ?_⟩
  rw [(Table.ofRows_eq_ok ht).2]
  exact forall₂_filterMap (fun _ => barRow?_eq_none) (fun _ => exists_isBarRow symbol?) lines

/-- **Lines become rows one for one.** Any lines make a table, with a column for the symbol unless
it has the name of another, and its rows are those of the lines that have all fields, in order. A
line that lacks fields is without effect, and so are fields behind the eleventh. -/
theorem barTable_rows (h : ∀ symbol ∈ symbol?, symbol.1 ∉ barColumns none) (lines : List String) :
    (∃ t, barTable symbol? lines = .ok t ∧
      t.columns = "日期" :: symbol?.toList.map (·.1) ++
        ["开盘", "收盘", "最高", "最低", "成交量", "成交额", "振幅", "涨跌幅", "涨跌额", "换手率"] ∧
      List.Forall₂ (IsBarRow symbol?) (lines.filter isWhole) t.rows) ∧
    (∀ before line after, lines = before ++ line :: after → isWhole line = false →
      barTable symbol? lines = barTable symbol? (before ++ after)) ∧
    ∀ before line more after, lines = before ++ (line ++ "," ++ more) :: after →
      isWhole line = true →
      barTable symbol? lines = barTable symbol? (before ++ line :: after) := by
  refine ⟨exists_barRows h lines, ?_, ?_⟩
  · rintro before line after rfl hline
    refine barTable_congr ?_
    rw [List.filterMap_append, List.filterMap_append,
      List.filterMap_cons_none (barRow?_eq_none hline)]
  · rintro before line more after rfl hline
    refine barTable_congr ?_
    rw [List.filterMap_append, List.filterMap_append, List.filterMap_cons, List.filterMap_cons,
      barRow?_append symbol? hline]

/-- A line with all fields, among them one that is no number. -/
def wholeLine : String := "2024-01-02,9,-, 1e1 ,.5,1158366,nan,x,-1.92,-0,+7,more"

theorem barTable_rows_wholeLine :
    let symbol? := some ("股票代码", "000001")
    let lines := ["2024-01-01,9.39", wholeLine, ""]
    (∀ symbol ∈ symbol?, symbol.1 ∉ barColumns none) ∧
      ∃ t row, barTable symbol? lines = .ok t ∧ t.rows = [row] ∧
        IsBarRow symbol? wholeLine row ∧ row.length = 12 := by
  intro symbol? lines
  have h : ∀ symbol ∈ symbol?, symbol.1 ∉ barColumns none := by
    intro symbol hsymbol
    obtain rfl := Option.some.inj hsymbol
    decide
  have hwhole : lines.filter isWhole = [wholeLine] := by decide +kernel
  obtain ⟨t, ht, -, hrows⟩ := (barTable_rows h lines).1
  rw [hwhole] at hrows
  obtain ⟨row, rest, hrow, hnil, heq⟩ := List.forall₂_cons_left_iff.1 hrows
  obtain rfl := List.forall₂_nil_left_iff.1 hnil
  exact ⟨h, t, row, ht, heq, hrow, hrow.length⟩

end Catalog

end MarketQuery
