import Mathlib.Data.List.Nodup
import MarketQuery.Proofs.Csv.Content
import MarketQuery.Proofs.Csv.Saving
import MarketQuery.Proofs.Rendering.Layout

/-!
# What operations on tables keep

A table begins with its columns, takes rows at its end, and is cut to its first or its last rows.
Whatever is done in whatever order, what renders and saves it may rely on its shape.

* `FirstRepeat`, `ofColumns_eq_error_iff`, `exists_ofColumns_iff`: which names make no table;
* `Operation`, `Table.apply`, `Table.run`: an operation, and operations in their order;
* `columns_apply`, `columns_run`, `rows_run`: what each of them and all of them keep;
* `run_filter_fits`: a row that is refused leaves no trace;
* `exists_run_of_ofRows`: the tables of queries are made by such operations;
* `columnIndex?_eq_some_iff`: the place of a column;
* `Csv.readRecords?_encode`, `Csv.length_of_mem_texts`: saved records have one length;
* `Sound`, **`sound_of_operations`**: what holds of every table.
-/

namespace MarketQuery

namespace Table

/-! ## Names -/

/-- The name is the first that is the same as an earlier one. -/
def FirstRepeat (names : List String) (name : String) : Prop :=
  ∃ before after, names = before ++ name :: after ∧ before.Nodup ∧ name ∈ before

theorem firstRepeat?_eq_some_iff {seen names : List String} {name : String} :
    firstRepeat? seen names = some name ↔
      ∃ before after, names = before ++ name :: after ∧
        (before.Nodup ∧ ∀ x ∈ before, x ∉ seen) ∧ (name ∈ before ∨ name ∈ seen) := by
  -- A name that is gone past moves from the names before the repeat to those that were seen.
  induction names generalizing seen with
  | nil => simp [firstRepeat?]
  | cons x rest ih =>
    rw [firstRepeat?]
    split
    case isTrue h =>
      constructor
      · rintro ⟨⟩
        exact ⟨[], rest, rfl, by simp, .inr h⟩
      · rintro ⟨before, after, he, ⟨-, hb⟩, -⟩
        cases before with
        | nil => rw [(List.cons.inj he).1]
        | cons y before =>
          obtain ⟨rfl, -⟩ := List.cons.inj he
          exact absurd h (hb x List.mem_cons_self)
    case isFalse h =>
      rw [ih]
      constructor
      · rintro ⟨before, after, rfl, ⟨hd, hb⟩, hn⟩
        refine ⟨x :: before, after, rfl, ⟨List.nodup_cons.2 ⟨fun hx => ?_, hd⟩, ?_⟩, ?_⟩
        · exact hb x hx List.mem_cons_self
        · exact List.forall_mem_cons.2 ⟨h, fun y hy hs => hb y hy (List.mem_cons_of_mem _ hs)⟩
        · rw [List.mem_cons] at hn ⊢
          rwa [or_assoc, or_left_comm]
      · rintro ⟨before, after, he, ⟨hd, hb⟩, hn⟩
        cases before with
        | nil =>
          obtain ⟨rfl, -⟩ := List.cons.inj he
          exact absurd (hn.resolve_left (by simp)) h
        | cons y before =>
          obtain ⟨rfl, rfl⟩ := List.cons.inj he
          obtain ⟨hx, hd⟩ := List.nodup_cons.1 hd
          refine ⟨before, after, rfl, ⟨hd, fun y hy => ?_⟩, ?_⟩
          · rw [List.mem_cons, not_or]
            exact ⟨fun e => hx (e ▸ hy), hb y (List.mem_cons_of_mem _ hy)⟩
          · rw [List.mem_cons] at hn ⊢
            rwa [or_left_comm, ← or_assoc]

theorem firstRepeat?_nil_eq_some_iff {names : List String} {name : String} :
    firstRepeat? [] names = some name ↔ FirstRepeat names name := by
  simp [firstRepeat?_eq_some_iff, FirstRepeat]

theorem ofColumns_eq_error_iff {columns : List String} {e : Error} :
    ofColumns columns = .error e ↔
      ∃ name, FirstRepeat columns name ∧ e = .duplicateColumn name := by
  simp only [← firstRepeat?_nil_eq_some_iff]
  unfold ofColumns
  split
  next name h => simp [h, eq_comm]
  next h => simp [h]

theorem ofColumns_eq_ok_iff {columns : List String} {t : Table} :
    ofColumns columns = .ok t ↔ t.columns = columns ∧ t.rows = [] := by
  obtain ⟨names, rows, nodup, width⟩ := t
  unfold ofColumns
  split
  next name h =>
    have hnot : ¬ names = columns := by
      rintro rfl
      cases h.symm.trans (firstRepeat?_eq_none_iff.2 ⟨nodup, by simp⟩)
    simp [hnot]
  next h => simp [eq_comm]

theorem exists_ofColumns_iff {columns : List String} :
    (∃ t, ofColumns columns = .ok t) ↔ columns.Nodup := by
  constructor
  · rintro ⟨t, h⟩
    exact (ofColumns_eq_ok_iff.1 h).1 ▸ t.nodup
  · exact fun h => ⟨⟨columns, [], h, by simp⟩, ofColumns_eq_ok_iff.2 ⟨rfl, rfl⟩⟩

/-! ## One operation -/

theorem push_eq_ok_iff {t u : Table} {row : List Cell} :
    t.push row = .ok u ↔
      row.length = t.columnCount ∧ u.columns = t.columns ∧ u.rows = t.rows ++ [row] := by
  obtain ⟨columns, rows, nodup, width⟩ := u
  unfold push columnCount
  split
  next h => simp [h, eq_comm]
  next h => simp [h]

theorem push_eq_error_iff {t : Table} {row : List Cell} {e : Error} :
    t.push row = .error e ↔
      row.length ≠ t.columnCount ∧ e = .rowWidth t.columnCount row.length := by
  unfold push columnCount
  split
  next h => simp [h]
  next h => simp [h, eq_comm]

theorem exists_push {t : Table} {row : List Cell} (h : row.length = t.columnCount) :
    ∃ u, t.push row = .ok u ∧ u.columns = t.columns ∧ u.rows = t.rows ++ [row] := by
  cases hp : t.push row with
  | ok u => exact ⟨u, rfl, (push_eq_ok_iff.1 hp).2⟩
  | error e => exact absurd h (push_eq_error_iff.1 hp).1

/-- What is done with a table that there is. -/
inductive Operation
  | push (row : List Cell)
  | head (n : Int64)
  | tail (n : Int64)

/-- A row that is put in has a cell for each of so many columns. -/
def Operation.Fits (width : Nat) : Operation → Prop
  | push row => row.length = width
  | head _ | tail _ => True

instance (width : Nat) : DecidablePred (Operation.Fits width)
  | .push row => inferInstanceAs (Decidable (row.length = width))
  | .head _ | .tail _ => inferInstanceAs (Decidable True)

/-- The rows that an operation puts in. -/
def Operation.added : Operation → List (List Cell)
  | push row => [row]
  | head _ | tail _ => []

/-- The table after an operation, and whether it was done. -/
def apply (t : Table) : Operation → Table × Except Error Unit
  | .push row =>
    match t.push row with
    | .ok u => (u, .ok ())
    | .error e => (t, .error e)
  | .head n => (t.head n.toInt, .ok ())
  | .tail n => (t.tail n.toInt, .ok ())

variable {t : Table}

theorem apply_push_of_ok {row : List Cell} {u : Table} (h : t.push row = .ok u) :
    t.apply (.push row) = (u, .ok ()) := by
  rw [apply, h]

theorem apply_push_of_not_fits {row : List Cell} (h : row.length ≠ t.columnCount) :
    t.apply (.push row) = (t, .error (.rowWidth t.columnCount row.length)) := by
  rw [apply, push_eq_error_iff.2 ⟨h, rfl⟩]

/-- An operation fails only if it puts in a row of another width, and leaves the table as it was. -/
theorem apply_eq_error_iff {o : Operation} {u : Table} {e : Error} :
    t.apply o = (u, .error e) ↔
      u = t ∧ ∃ row, o = .push row ∧ row.length ≠ t.columnCount ∧
        e = .rowWidth t.columnCount row.length := by
  cases o with
  | head n => simp [apply]
  | tail n => simp [apply]
  | push row =>
    cases h : t.push row with
    | ok v => simp [apply_push_of_ok h, (push_eq_ok_iff.1 h).1]
    | error e' =>
      obtain ⟨hlength, -⟩ := push_eq_error_iff.1 h
      rw [apply_push_of_not_fits hlength]
      simp [hlength, eq_comm]

theorem columns_apply (o : Operation) : (t.apply o).1.columns = t.columns := by
  cases o with
  | head n => rfl
  | tail n => rfl
  | push row =>
    cases h : t.push row with
    | error e => simp [apply, h]
    | ok u => rw [apply_push_of_ok h, (push_eq_ok_iff.1 h).2.1]

/-- The rows of a table are those of the one before and those put in, without some of them. -/
theorem rows_apply (o : Operation) : (t.apply o).1.rows.Sublist (t.rows ++ o.added) := by
  cases o with
  | head n =>
    rw [Operation.added, List.append_nil]
    exact List.take_sublist _ _
  | tail n =>
    rw [Operation.added, List.append_nil]
    exact List.drop_sublist _ _
  | push row =>
    cases h : t.push row with
    | error e => simp [apply, h, Operation.added]
    | ok u => rw [apply_push_of_ok h, (push_eq_ok_iff.1 h).2.2, Operation.added]

/-! ## Operations in their order -/

/-- The table after operations in their order. -/
def run (t : Table) (operations : List Operation) : Table :=
  operations.foldl (fun t o => (t.apply o).1) t

theorem run_cons (o : Operation) (operations : List Operation) :
    t.run (o :: operations) = (t.apply o).1.run operations := rfl

theorem columns_run (operations : List Operation) : (t.run operations).columns = t.columns := by
  induction operations generalizing t with
  | nil => rfl
  | cons o operations ih => rw [run_cons, ih, columns_apply]

theorem rows_run (operations : List Operation) :
    (t.run operations).rows.Sublist (t.rows ++ operations.flatMap Operation.added) := by
  induction operations generalizing t with
  | nil => simp [run]
  | cons o operations ih =>
    rw [run_cons, List.flatMap_cons, ← List.append_assoc]
    exact ih.trans ((rows_apply o).append (.refl _))

theorem run_filter_fits (operations : List Operation) :
    t.run operations = t.run (operations.filter (·.Fits t.columnCount)) := by
  induction operations generalizing t with
  | nil => rfl
  | cons o operations ih =>
    -- Which rows fit is the same all along, as the columns stay.
    have hcount : (t.apply o).1.columnCount = t.columnCount :=
      congrArg List.length (columns_apply o)
    by_cases h : o.Fits t.columnCount
    · rw [List.filter_cons_of_pos (by simpa using h), run_cons, run_cons, ih, hcount]
    · rw [List.filter_cons_of_neg (by simpa using h), run_cons]
      cases o with
      | head n => exact absurd trivial h
      | tail n => exact absurd trivial h
      | push row => rw [apply_push_of_not_fits h, ih]

/-! ## Tables made of rows -/

theorem rows_run_push {rows : List (List Cell)} (h : ∀ row ∈ rows, row.length = t.columnCount) :
    (t.run (rows.map .push)).rows = t.rows ++ rows := by
  induction rows generalizing t with
  | nil => simp [run]
  | cons row rows ih =>
    obtain ⟨hrow, hrows⟩ := List.forall_mem_cons.1 h
    obtain ⟨u, hu, hcolumns, hput⟩ := exists_push hrow
    rw [List.map_cons, run_cons, apply_push_of_ok hu, ih, hput, List.append_assoc]
    · rfl
    · rwa [columnCount, hcolumns]

theorem ofRows_eq_ok {columns : List String} {rows : List (List Cell)}
    (h : ofRows columns rows = .ok t) : t.columns = columns ∧ t.rows = rows := by
  unfold ofRows at h
  split at h
  · cases h
  · split at h
    · cases h
    · obtain rfl := Except.ok.inj h
      exact ⟨rfl, rfl⟩

theorem eq_of_rows_eq {u : Table} (hc : t.columns = u.columns) (hr : t.rows = u.rows) :
    t = u := by
  obtain ⟨columns, rows, nodup, width⟩ := t
  obtain ⟨columns', rows', nodup', width'⟩ := u
  obtain rfl : columns = columns' := hc
  obtain rfl : rows = rows' := hr
  rfl

/-- A table made of rows at once is the one they make when each is put at its end. -/
theorem exists_run_of_ofRows {columns : List String} {rows : List (List Cell)}
    (h : ofRows columns rows = .ok t) :
    ∃ u, ofColumns columns = .ok u ∧ t = u.run (rows.map .push) := by
  obtain ⟨rfl, rfl⟩ := ofRows_eq_ok h
  obtain ⟨u, hu⟩ := exists_ofColumns_iff.2 t.nodup
  obtain ⟨hcolumns, hrows⟩ := ofColumns_eq_ok_iff.1 hu
  refine ⟨u, hu, eq_of_rows_eq ?_ ?_⟩
  · rw [columns_run, hcolumns]
  · rw [rows_run_push, hrows, List.nil_append]
    rw [columnCount, hcolumns]
    exact t.width

/-! ## Places of columns -/

theorem columnIndex?_eq_some_iff {name : String} {index : Nat} :
    t.columnIndex? name = some index ↔ t.columns[index]? = some name := by
  rw [columnIndex?, List.idxOf?_eq_some_iff, List.getElem?_eq_some_iff]
  refine exists_congr fun h => and_iff_left_of_imp fun hname j hj he => ?_
  have hindex := (List.Nodup.getElem_inj_iff t.nodup).1 (he.trans hname.symm)
  omega

end Table

/-! ## Saved records -/

namespace Csv

/-- What a reader finds in the line of a record: one without fields looks like one with a field
that has no text. -/
def asRead (texts : List String) : List String := if texts = [] then [""] else texts

theorem line_asRead (texts : List String) : line (asRead texts) = line texts := by
  unfold asRead
  split
  next h => rw [h]; rfl
  next => rfl

theorem asRead_ne_nil (texts : List String) : asRead texts ≠ [] := by
  unfold asRead
  split <;> simp_all

theorem length_asRead (texts : List String) : (asRead texts).length = max 1 texts.length := by
  unfold asRead
  split
  next h => simp [h]
  next h =>
    have := List.length_pos_iff.2 h
    omega

theorem readRecords?_encode (t : Table) :
    ∃ body, encode t = "\ufeff" ++ body ∧
      readRecords? body.toList = some ((texts t).map asRead) := by
  refine ⟨_, encode_eq t, ?_⟩
  have hlines : (texts t).flatMap line = ((texts t).map asRead).flatMap line := by
    rw [List.flatMap_map]
    exact List.flatMap_congr fun record _ => (line_asRead record).symm
  rw [String.toList_ofList, hlines]
  refine readRecords?_lines fun record h => ?_
  obtain ⟨texts, -, rfl⟩ := List.mem_map.1 h
  exact asRead_ne_nil texts

theorem length_of_mem_texts {t : Table} : ∀ record ∈ texts t, record.length = t.columnCount := by
  intro record h
  rcases List.mem_cons.1 h with rfl | h
  · rfl
  · obtain ⟨row, hrow, rfl⟩ := List.mem_map.1 h
    rw [List.length_map, t.width row hrow]
    rfl

end Csv

/-! ## All tables -/

namespace Table

/-- What renders and saves a table may rely on this, the columns being those it began with. -/
structure Sound (columns : List String) (t : Table) : Prop where
  columns_eq : t.columns = columns
  nodup : t.columns.Nodup
  width : ∀ row ∈ t.rows, row.length = columns.length
  /-- A row with a cell for each column goes to the end. -/
  pushed : ∀ row, row.length = columns.length →
    ∃ u, t.apply (.push row) = (u, .ok ()) ∧ u.columns = columns ∧ u.rows = t.rows ++ [row]
  /-- A row is refused just if it has another width, and then the table stays as it was. -/
  refused : ∀ row u e, t.apply (.push row) = (u, .error e) ↔
    u = t ∧ row.length ≠ columns.length ∧ e = .rowWidth columns.length row.length
  columnIndex : ∀ name index, t.columnIndex? name = some index ↔ columns[index]? = some name
  rendered : ∀ limit, t.render? limit = some (t.render limit)
  saved : ∀ path fs fs' rows, Csv.save t path fs = (fs', .ok rows) →
    ∃ body records, Csv.Kept fs fs' path ("\ufeff" ++ body) ∧
      Csv.readRecords? body.toList = some records ∧ records.length = rows + 1 ∧
      ∀ record ∈ records, record.length = max 1 columns.length

theorem sound (t : Table) : t.Sound t.columns where
  columns_eq := rfl
  nodup := t.nodup
  width := t.width
  pushed row h := by
    obtain ⟨u, hu, hput⟩ := exists_push h
    exact ⟨u, apply_push_of_ok hu, hput⟩
  refused row u e := by simp [apply_eq_error_iff, columnCount]
  columnIndex _ _ := columnIndex?_eq_some_iff
  rendered := render?_eq_some t
  saved path fs fs' rows h := by
    obtain ⟨hrows, hkept⟩ := Csv.save_eq_ok h
    obtain ⟨body, hbody, hread⟩ := Csv.readRecords?_encode t
    refine ⟨body, _, hbody ▸ hkept, hread, ?_, fun record hrecord => ?_⟩
    · rw [hrows, List.length_map, Csv.texts, List.length_cons, List.length_map, rowCount]
    · obtain ⟨texts, htexts, rfl⟩ := List.mem_map.1 hrecord
      rw [Csv.length_asRead, Csv.length_of_mem_texts texts htexts]
      rfl

/-- **What every table keeps.** Columns make a table unless a name repeats an earlier one, and the
first such name is told. Whatever operations follow, the columns stay, each row has a cell for each
of them, refused rows leave no trace, and rendering, looking up and saving find what they look
for. -/
theorem sound_of_operations (columns : List String) :
    ((∃ t, ofColumns columns = .ok t) ↔ columns.Nodup) ∧
    (∀ e, ofColumns columns = .error e ↔
      ∃ name, FirstRepeat columns name ∧ e = .duplicateColumn name) ∧
    ∀ t, ofColumns columns = .ok t → ∀ operations : List Operation,
      (t.run operations).Sound columns ∧
      t.run operations = t.run (operations.filter (·.Fits columns.length)) ∧
      (t.run operations).rows.Sublist (operations.flatMap Operation.added) := by
  refine ⟨exists_ofColumns_iff, fun e => ofColumns_eq_error_iff, fun t h operations => ?_⟩
  obtain ⟨rfl, hrows⟩ := ofColumns_eq_ok_iff.1 h
  refine ⟨?_, run_filter_fits operations, ?_⟩
  · rw [← columns_run operations]
    exact (t.run operations).sound
  · simpa [hrows] using rows_run (t := t) operations

/-- Two columns without rows. -/
def twoColumns : Table where
  columns := ["a", "b"]
  rows := []
  nodup := by decide
  width := by simp

theorem sound_of_operations_twoColumns :
    ofColumns ["a", "b"] = .ok twoColumns ∧
    let u := twoColumns.run [.push [.int 1], .push [.int 2, .null], .push [.null, .text "x"],
      .tail (-1), .head Int64.maxValue]
    u.rows = [[.null, .text "x"]] ∧ u.Sound ["a", "b"] := by
  have h : ofColumns ["a", "b"] = .ok twoColumns := ofColumns_eq_ok_iff.2 ⟨rfl, rfl⟩
  exact ⟨h, by decide, ((sound_of_operations ["a", "b"]).2.2 twoColumns h _).1⟩

end Table

end MarketQuery
