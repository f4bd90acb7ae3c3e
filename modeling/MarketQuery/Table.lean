import MarketQuery.Cell

/-!
# Tables

* `Table`: distinct column names over rows that have a cell for each;
* `Table.Error`: a name that comes twice, a row of another width;
* `Table.ofColumns`, `Table.push`, `Table.ofRows`: tables from their columns and rows;
* `Table.head`, `Table.tail`: the first or the last rows, a negative count leaving out as many;
* `firstRepeat?_eq_none_iff`: no name is found to repeat an earlier one just when all are distinct.
-/

namespace MarketQuery

/-- Distinct column names over rows that have a cell for each. -/
structure Table where
  columns : List String
  rows : List (List Cell)
  nodup : columns.Nodup
  width : ∀ row ∈ rows, row.length = columns.length

namespace Table

/-- Why columns and rows make no table. -/
inductive Error
  | duplicateColumn (name : String)
  | rowWidth (expected actual : Nat)
  deriving DecidableEq, Repr

def Error.message : Error → String
  | duplicateColumn name => "duplicate column name: " ++ name
  | rowWidth expected actual =>
    "row has " ++ Number.natText actual ++ " cells but table has " ++ Number.natText expected ++
      " columns"

/-- The first name that is among `seen` or comes a second time. -/
def firstRepeat? (seen : List String) : List String → Option String
  | [] => none
  | name :: rest => if name ∈ seen then some name else firstRepeat? (name :: seen) rest

theorem firstRepeat?_eq_none_iff {seen names : List String} :
    firstRepeat? seen names = none ↔ names.Nodup ∧ ∀ name ∈ names, name ∉ seen := by
  induction names generalizing seen with
  | nil => simp [firstRepeat?]
  | cons name rest ih =>
    simp only [firstRepeat?]
    split
    case isTrue h => simp [h]
    case isFalse h =>
      rw [ih]
      simp only [List.nodup_cons, List.mem_cons, forall_eq_or_imp, not_or]
      constructor
      · rintro ⟨hr, hs⟩
        exact ⟨⟨fun hm => (hs name hm).1 rfl, hr⟩, h, fun x hx => (hs x hx).2⟩
      · rintro ⟨⟨hn, hr⟩, -, hs⟩
        exact ⟨hr, fun x hx => ⟨fun e => hn (e ▸ hx), hs x hx⟩⟩

/-- The table of the given columns without rows. -/
def ofColumns (columns : List String) : Except Error Table :=
  match h : firstRepeat? [] columns with
  | some name => .error (.duplicateColumn name)
  | none => .ok ⟨columns, [], (firstRepeat?_eq_none_iff.1 h).1, by simp⟩

/-- A table with a row put at its end. -/
def push (t : Table) (row : List Cell) : Except Error Table :=
  if h : row.length = t.columns.length then
    .ok { t with
      rows := t.rows ++ [row]
      width := fun r hr => by
        rcases List.mem_append.1 hr with hr | hr
        · exact t.width r hr
        · exact List.mem_singleton.1 hr ▸ h }
  else .error (.rowWidth t.columns.length row.length)

/-- The table of the given columns and rows; the first row of another width is refused. -/
def ofRows (columns : List String) (rows : List (List Cell)) : Except Error Table :=
  match h : firstRepeat? [] columns with
  | some name => .error (.duplicateColumn name)
  | none =>
    match hw : rows.find? (·.length != columns.length) with
    | some row => .error (.rowWidth columns.length row.length)
    | none => .ok ⟨columns, rows, (firstRepeat?_eq_none_iff.1 h).1, fun row hr => by
        simpa using List.find?_eq_none.1 hw row hr⟩

def rowCount (t : Table) : Nat := t.rows.length

def columnCount (t : Table) : Nat := t.columns.length

def isEmpty (t : Table) : Bool := t.rows.isEmpty

/-- The place of a column. -/
def columnIndex? (t : Table) (name : String) : Option Nat := t.columns.idxOf? name

/-- How many of `length` rows a count keeps: so many, or all but so many if it is negative. -/
def keepCount (length : Nat) (n : Int) : Nat :=
  if 0 ≤ n then min n.natAbs length else length - n.natAbs

/-- A table with fewer rows. -/
def withRows (t : Table) (rows : List (List Cell)) (h : ∀ row ∈ rows, row ∈ t.rows) : Table where
  columns := t.columns
  rows := rows
  nodup := t.nodup
  width := fun r hr => t.width r (h r hr)

/-- The first rows, or all but the last ones. -/
def head (t : Table) (n : Int) : Table :=
  t.withRows (t.rows.take (keepCount t.rowCount n)) fun _ => List.mem_of_mem_take

/-- The last rows, or all but the first ones. -/
def tail (t : Table) (n : Int) : Table :=
  t.withRows (t.rows.drop (t.rowCount - keepCount t.rowCount n)) fun _ => List.mem_of_mem_drop

end Table

end MarketQuery
