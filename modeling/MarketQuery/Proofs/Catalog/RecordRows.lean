import MarketQuery.Proofs.Catalog.Tables
import MarketQuery.Proofs.Json.Fields
import MarketQuery.Proofs.Provider.Completeness
import MarketQuery.Proofs.Table.Operations

/-!
# Rows of records

Snapshots and reports fetch records page by page and show a row for each.

* `FieldColumn.Shows`, `FieldColumn.Shows.eq_read`: the cell that a column shows of a field;
* `RecordFunction`: the functions that show records, with what they fetch and their columns;
* `RecordFunction.call_eq`: they fetch the records and make a table of them, and nothing else;
  `exists_fetch`: the pages that are asked for, and the records of all;
* `RecordFunction.Mirrors`, `exists_mirrors`: a table has a row for each record, in order;
* `Mirrors.cell_congr`: a cell depends on its own field only;
* **`tables_mirror_records`**: what the functions give is the table of all records received.
-/

namespace MarketQuery.Catalog

open Json

/-! ## Columns -/

namespace FieldColumn

/-- The cell that a column shows of a field. -/
inductive Shows : FieldColumn → Option Json.Value → Cell → Prop
  | text {name field : String} {v? : Option Json.Value} {c : Cell} (h : OfTextField v? c) :
      Shows (.text name field) v? c
  | number {name field : String} {v? : Option Json.Value} {c : Cell} (h : OfNumberField v? c) :
      Shows (.number name field) v? c

variable {column : FieldColumn} {v? : Option Json.Value} {c : Cell}

theorem Shows.eq_read (h : column.Shows v? c) : c = column.read v? := by
  cases h with
  | text h => exact (textCell_eq_iff.2 h).symm
  | number h => exact (numberCell_eq_iff.2 h).symm

/-- The column is one of texts or one of numbers. -/
def IsDeclared (column : FieldColumn) : Prop :=
  column = .text column.name column.field ∨ column = .number column.name column.field

theorem IsDeclared.shows (h : column.IsDeclared) (v? : Option Json.Value) :
    column.Shows v? (column.read v?) := by
  rcases h with h | h
  · rw [h]
    exact .text (textCell_eq_iff.1 rfl)
  · rw [h]
    exact .number (numberCell_eq_iff.1 rfl)

/-- A field that is missing, null, empty or a dash is shown as a missing value. -/
theorem Shows.eq_null (h : column.Shows v? c)
    (hv : v? ∈ [none, some .null, some (.string ""), some (.string "-")]) : c = .null := by
  simp only [List.mem_cons, List.not_mem_nil, or_false] at hv
  cases h with
  | text h =>
    rw [← textCell_eq_iff.2 h]
    rcases hv with rfl | rfl | rfl | rfl <;> rfl
  | number h =>
    rw [← numberCell_eq_iff.2 h]
    rcases hv with rfl | rfl | rfl | rfl <;> rfl

end FieldColumn

/-! ## Functions -/

/-- The functions that show records. -/
inductive RecordFunction
  | stocks
  | funds
  | consumerPrices
  | producerPrices

namespace RecordFunction

open Provider (PageSource)

/-- The function of the catalog. -/
def function (p : Provider) : RecordFunction → QueryFunction
  | stocks => stockSnapshot p
  | funds => fundSnapshot p
  | consumerPrices => Catalog.consumerPrices p
  | producerPrices => Catalog.producerPrices p

/-- The columns that are declared for a function. -/
def columns : RecordFunction → List FieldColumn
  | stocks => stockColumns
  | funds => fundColumns
  | consumerPrices => consumerColumns
  | producerPrices => producerColumns

/-- What comes in pages. -/
def source (p : Provider) : RecordFunction → PageSource
  | stocks => p.listingSource stockFilter (fieldList stockColumns)
  | funds => p.listingSource fundFilter (fieldList fundColumns)
  | consumerPrices => p.reportSource "RPT_ECONOMY_CPI"
  | producerPrices => p.reportSource "RPT_ECONOMY_PPI"

/-- The records of all pages. -/
def fetch (p : Provider) (f : RecordFunction) : Call (List Object) := p.collectAll (f.source p)

/-- The names of the columns before those of the fields: that of the numbers, for stocks. -/
def leading : RecordFunction → List String
  | stocks => ["序号"]
  | _ => []

/-- A table has a row for each record, in order, with a cell for each column. The cell is what the
column shows of its field. The rows of stocks are numbered from 1. -/
structure Mirrors (f : RecordFunction) (records : List Object) (t : Table) : Prop where
  columns : t.columns = f.leading ++ f.columns.map (·.name)
  count : t.rows.length = records.length
  cells : ∀ (i : Nat) (record : Object) (j : Nat) (column : FieldColumn),
    records[i]? = some record → f.columns[j]? = some column →
    ∃ c, t.rows[i]?.bind (·[f.leading.length + j]?) = some c ∧
      column.Shows (record.get? column.field) c
  ordinals : f = stocks → ∀ i < records.length, ∃ n : Int64,
    t.rows[i]?.bind (·[0]?) = some (.int n) ∧ (i + 1 < 2 ^ 63 → n.toInt = i + 1)

variable {f : RecordFunction}

/-! ## Tables -/

/-- The table of records. -/
def table (records : List Object) : RecordFunction → Except Table.Error Table
  | stocks => numberedTable stockColumns records
  | f => recordTable f.columns records

/-- The number of a row, where rows have one. -/
def leadingCells (i : Nat) : RecordFunction → List Cell
  | stocks => [.int (.ofNat (i + 1))]
  | _ => []

theorem length_leadingCells (f : RecordFunction) (i : Nat) :
    (f.leadingCells i).length = f.leading.length := by
  cases f <;> rfl

theorem isDeclared_columns (f : RecordFunction) : ∀ column ∈ f.columns, column.IsDeclared := by
  cases f <;>
    simp [columns, stockColumns, fundColumns, consumerColumns, producerColumns,
      FieldColumn.IsDeclared, FieldColumn.text, FieldColumn.number]

theorem nodup_names (f : RecordFunction) : (f.leading ++ f.columns.map (·.name)).Nodup := by
  cases f <;> decide

theorem exists_table (f : RecordFunction) (records : List Object) : ∃ t,
    f.table records = .ok t ∧ t.columns = f.leading ++ f.columns.map (·.name) ∧
      t.rows.length = records.length ∧
      ∀ i : Nat, t.rows[i]? =
        records[i]?.map fun record => f.leadingCells i ++ recordRow f.columns record := by
  have hnames := f.nodup_names
  cases f with
  | stocks =>
    obtain ⟨t, ht, hcolumns⟩ := exists_numberedTable hnames records
    have hrows := (Table.ofRows_eq_ok ht).2
    exact ⟨t, ht, hcolumns, by rw [hrows, List.length_mapIdx],
      fun i => by rw [hrows, List.getElem?_mapIdx]; rfl⟩
  | funds | consumerPrices | producerPrices =>
    obtain ⟨t, ht, hcolumns⟩ := exists_recordTable hnames records
    have hrows := (Table.ofRows_eq_ok ht).2
    exact ⟨t, ht, hcolumns, by rw [hrows, List.length_map],
      fun i => by rw [hrows, List.getElem?_map]; rfl⟩

theorem exists_mirrors (f : RecordFunction) (records : List Object) :
    ∃ t, f.table records = .ok t ∧ f.Mirrors records t := by
  obtain ⟨t, ht, hcolumns, hcount, hrow⟩ := f.exists_table records
  refine ⟨t, ht, hcolumns, hcount, ?_, ?_⟩
  · intro i record j column hrecord hcolumn
    refine ⟨column.cell record, ?_,
      (f.isDeclared_columns column (List.mem_of_getElem? hcolumn)).shows _⟩
    rw [hrow, hrecord, Option.map_some, Option.bind_some, ← f.length_leadingCells i,
      List.getElem?_append_right (Nat.le_add_right _ _), Nat.add_sub_cancel_left, recordRow,
      List.getElem?_map, hcolumn, Option.map_some]
  · rintro rfl i hi
    refine ⟨.ofNat (i + 1), ?_, fun hlt => ?_⟩
    · rw [hrow, List.getElem?_eq_getElem hi]
      rfl
    · rw [Int64.toInt_ofNat_of_lt hlt]
      push_cast
      rfl

/-- A cell depends on its own field only, whatever the other fields and records are. -/
theorem Mirrors.cell_congr {records records' : List Object} {t t' : Table}
    (h : f.Mirrors records t) (h' : f.Mirrors records' t') {i i' j : Nat} {record record' : Object}
    {column : FieldColumn} (hi : records[i]? = some record) (hi' : records'[i']? = some record')
    (hj : f.columns[j]? = some column)
    (hfield : record.get? column.field = record'.get? column.field) :
    t.rows[i]?.bind (·[f.leading.length + j]?) = t'.rows[i']?.bind (·[f.leading.length + j]?) := by
  obtain ⟨c, hc, hshows⟩ := h.cells i record j column hi hj
  obtain ⟨c', hc', hshows'⟩ := h'.cells i' record' j column hi' hj
  rw [hc, hc', hshows.eq_read, hshows'.eq_read, hfield]

/-! ## Calls -/

theorem call_eq (f : RecordFunction) (p : Provider) (b : Bound) : (f.function p).call b = do
    let records ← f.fetch p
    return .table (← Call.ofExcept ((f.table records).mapError .shape)) := by
  cases f <;> rfl

theorem exchanges_call (f : RecordFunction) (p : Provider) (b : Bound) :
    ((f.function p).call b).exchanges = (f.fetch p).exchanges := by
  rw [call_eq]
  cases hfetch : (f.fetch p).result with
  | error e => rw [Call.bind_of_error hfetch]
  | ok records =>
    obtain ⟨t, ht, -⟩ := f.exists_table records
    rw [Call.bind_of_ok hfetch, ht]
    exact List.append_nil _

theorem table_of_call {p : Provider} {b : Bound} {records : List Object} {t : Table}
    (hfetch : (f.fetch p).result = .ok records)
    (h : ((f.function p).call b).result = .ok (.table t)) : f.table records = .ok t := by
  rw [call_eq, Call.bind_of_ok hfetch] at h
  obtain ⟨t', ht', -⟩ := f.exists_table records
  rw [ht'] at h ⊢
  exact congrArg Except.ok (Answer.table.inj (Except.ok.inj h))

theorem exists_fetch (f : RecordFunction) (p : Provider) : ∃ last,
    (f.fetch p).exchanges = (List.range' 1 last).map (p.pageExchange (f.source p)) ∧
      ∀ records, (f.fetch p).result = .ok records → p.RowsThrough (f.source p) last records := by
  obtain ⟨last, hlast⟩ := Provider.exists_isLeast_isLastAsked p (f.source p)
    fun number collected page => (f.source p).isLast number collected page = true
  have hfetch := Provider.collectAll_of_isLeast (fun _ _ _ => Iff.rfl) hlast
  refine ⟨last, congrArg Call.exchanges hfetch, fun records hok => ?_⟩
  have houtcome : p.outcome (f.source p) last = .ok records :=
    (congrArg Call.result hfetch).symm.trans hok
  rw [Provider.outcome] at houtcome
  generalize Provider.readReply _ _ _ = content at houtcome
  cases content with
  | error e => cases houtcome
  | ok page? => exact Provider.rowsThrough_iff.2 (Except.ok.inj houtcome)

/-- **The tables of snapshots and reports mirror the records received.** A call asks for the pages
in turn, and if it gets them all, its table has a row for each record of all pages, in order. A
record has under each name what its tree in the reply has. A cell shows its own field and nothing
else, a field without a content as a missing value, and the rows of stocks are numbered through. -/
theorem tables_mirror_records (f : RecordFunction) :
    (∀ p b, ∃ last, ((f.function p).call b).exchanges =
        (List.range' 1 last).map (p.pageExchange (f.source p)) ∧
      ∀ records, (f.fetch p).result = .ok records →
        p.RowsThrough (f.source p) last records ∧
        ∃ t, ((f.function p).call b).result = .ok (.table t) ∧ f.Mirrors records t) ∧
    (∀ tree record, IsRow 3 tree record → ∀ name, HasField 123 name tree (record.get? name)) ∧
    (∀ (records records' : List Object) (t t' : Table),
      f.Mirrors records t → f.Mirrors records' t' →
      ∀ (i i' j : Nat) (record record' : Object) (column : FieldColumn),
        records[i]? = some record → records'[i']? = some record' → f.columns[j]? = some column →
        record.get? column.field = record'.get? column.field →
        t.rows[i]?.bind (·[f.leading.length + j]?) =
          t'.rows[i']?.bind (·[f.leading.length + j]?)) ∧
    ∀ column ∈ f.columns, ∀ v? c, column.Shows v? c →
      v? ∈ [none, some .null, some (.string ""), some (.string "-")] → c = .null := by
  refine ⟨fun p b => ?_, fun tree record hrow => hrow.hasField, ?_,
    fun column _ v? c hshows => hshows.eq_null⟩
  · obtain ⟨last, hexchanges, hrecords⟩ := f.exists_fetch p
    refine ⟨last, (f.exchanges_call p b).trans hexchanges, fun records hok => ?_⟩
    obtain ⟨t, ht, hmirrors⟩ := f.exists_mirrors records
    refine ⟨hrecords records hok, t, ?_, hmirrors⟩
    rw [call_eq, Call.bind_of_ok hok, ht]
    rfl
  · intro records records' t t' h h' i i' j record record' column hi hi' hj
    exact h.cell_congr h' hi hi' hj

/-- Octets that bring the records of stocks on two pages. Fields are in any order; some are null,
empty, a dash or left out, and one comes twice. -/
def stockOctets (number : Nat) : List UInt8 :=
  let first := Provider.objectText
    [("f12", "\"000001\""), ("f14", "\"A\""), ("f2", "1"), ("f3", "\"-1.2\""), ("f2", "10.5")]
  let second := Provider.objectText [("f2", "null"), ("f12", "\"000002\""), ("f14", "\"\"")]
  let third :=
    Provider.objectText [("f4", "5"), ("f14", "7"), ("f12", "\"600519\""), ("f2", "\"-\"")]
  Provider.pageOctets "3" (if number = 0 then "[" ++ first ++ "," ++ second ++ "]" else
    "[" ++ third ++ "]")

/-- The records of the two pages. -/
def stockPages : List (List Object) :=
  [[[("f12", .string "000001"), ("f14", .string "A"), ("f2", .number (.float Provider.tenAndHalf)),
      ("f3", .string "-1.2")],
    [("f2", .null), ("f12", .string "000002"), ("f14", .string "")]],
  [[("f4", .number (.integer 5)), ("f14", .number (.integer 7)), ("f12", .string "600519"),
    ("f2", .string "-")]]]

/-- The first cells of their rows. -/
def stockCells : List (List Cell) :=
  [[.int 1, .text "000001", .text "A", .float Provider.tenAndHalf,
      .float (.finite true ⟨4608083138725491507, by decide⟩), .null],
    [.int 2, .text "000002", .null, .null, .null, .null],
    [.int 3, .text "600519", .text "7", .null, .null, .int 5]]

theorem tables_mirror_records_stocks :
    let p := Provider.served stockOctets
    p.RowsThrough (stocks.source p) 2 stockPages.flatten ∧
    ∃ t, ((stocks.function p).call ∅).result = .ok (.table t) ∧
      stocks.Mirrors stockPages.flatten t ∧
      t.rows.map (·.take 6) = stockCells := by
  intro p
  have hserves : Provider.Serves p (stocks.source p) 3 stockPages := by
    have hpage : ∀ i : Fin stockPages.length, (stocks.source p).pageOf? (stockOctets i) =
        some (some ⟨3, stockPages[i]⟩) := by decide +kernel
    exact fun i hi => Provider.brings_served (hpage ⟨i, hi⟩)
  have hgathers : Provider.Gathers p (stocks.source p) stockPages "pn" (stocks.fetch p) :=
    Provider.gathers_listing (by decide) (by decide) (by decide) hserves
  obtain ⟨last, hexchanges, hrecords⟩ := (tables_mirror_records stocks).1 p ∅
  obtain ⟨hrows, t, ht, hmirrors⟩ := hrecords stockPages.flatten hgathers.result
  obtain rfl : last = stockPages.length := by
    have hlength := congrArg List.length hgathers.requests
    rw [← exchanges_call stocks p ∅, hexchanges] at hlength
    simpa only [List.length_map, List.length_range'] using hlength
  have hcells : (stocks.table stockPages.flatten).toOption.map (·.rows.map (·.take 6)) =
      some stockCells := by decide +kernel
  have htable : stocks.table stockPages.flatten = .ok t := table_of_call hgathers.result ht
  rw [htable] at hcells
  exact ⟨hrows, t, ht, hmirrors, Option.some.inj hcells⟩

end RecordFunction

end MarketQuery.Catalog
