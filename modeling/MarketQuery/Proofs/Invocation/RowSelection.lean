import Mathlib.Data.List.Infix
import MarketQuery.Invocation
import MarketQuery.Proofs.Number.Numerals

/-!
# The rows that an invocation keeps

A count of first or last rows keeps as many as it says, or leaves out as many at the other end if it
is negative. The count of first rows goes before that of the last, and a count of zero is none.

* `Table.keepCount_of_nonneg`, `Table.keepCount_of_neg`: how many rows a count keeps;
* `Table.keepCount_add_keepCount_neg`, `Table.head_append_tail`: a count of first rows and its
  opposite of last rows divide the rows;
* `Table.keepWord`, `Table.inWords`: the same count in words of 64 bits, where nothing wraps around;
* `Invocation.truncate_cases`: a table keeps its first rows, its last rows or all;
* `Invocation.Selects`, `Invocation.rows_truncate_eq_iff`: the rows that are kept, told by the
  counts;
* **`Invocation.truncate_selects_block`**: they are one block, and all of the above.
-/

namespace MarketQuery

namespace Table

/-! ## Counts -/

variable {length : Nat} {n : Int}

theorem keepCount_of_nonneg (length : Nat) (h : 0 ≤ n) :
    keepCount length n = min n.natAbs length := if_pos h

theorem keepCount_of_neg (length : Nat) (h : n < 0) :
    keepCount length n = length - n.natAbs := if_neg (not_le.2 h)

theorem keepCount_le (length : Nat) (n : Int) : keepCount length n ≤ length := by
  unfold keepCount
  split
  · exact Nat.min_le_right _ _
  · exact Nat.sub_le _ _

/-- What a count keeps its opposite leaves out. -/
theorem keepCount_add_keepCount_neg (length : Nat) (h : n ≠ 0) :
    keepCount length n + keepCount length (-n) = length := by
  rcases lt_or_gt_of_ne h with hneg | hpos
  · rw [keepCount_of_neg length hneg, keepCount_of_nonneg length (by omega)]
    omega
  · rw [keepCount_of_nonneg length hpos.le, keepCount_of_neg length (by omega)]
    omega

variable (t : Table)

theorem rows_head (n : Int) : (t.head n).rows = t.rows.take (keepCount t.rowCount n) := rfl

theorem rows_tail (n : Int) :
    (t.tail n).rows = t.rows.drop (t.rowCount - keepCount t.rowCount n) := rfl

theorem head_append_tail (h : n ≠ 0) : (t.head n).rows ++ (t.tail (-n)).rows = t.rows := by
  have hkept := keepCount_add_keepCount_neg t.rowCount h
  have hskipped : t.rowCount - keepCount t.rowCount (-n) = keepCount t.rowCount n := by omega
  rw [rows_head, rows_tail, hskipped, List.take_append_drop]

/-! ## Words of 64 bits -/

/-- How many of `length` rows a count keeps, in words of 64 bits. The size of a count is a word
without a sign, as the least count has no opposite with a sign. -/
def keepWord (length : UInt64) (n : Int64) : UInt64 :=
  let size := n.abs.toUInt64
  if 0 ≤ n then (if size ≤ length then size else length)
  else if size ≤ length then length - size else 0

theorem toNat_abs (n : Int64) : n.abs.toUInt64.toNat = n.toInt.natAbs := by
  have hword : n.abs.toUInt64.toNat = n.toBitVec.abs.toNat := rfl
  have hint : n.toInt = n.toBitVec.toInt := rfl
  have hlt := n.toBitVec.isLt
  rw [hword, hint, BitVec.toNat_abs, BitVec.toInt_eq_msb_cond]
  split <;> omega

theorem toNat_keepWord (length : UInt64) (n : Int64) :
    (keepWord length n).toNat = keepCount length.toNat n.toInt := by
  have hsize := toNat_abs n
  have hsign : 0 ≤ n ↔ 0 ≤ n.toInt := Int64.le_iff_toInt_le
  have hle : n.abs.toUInt64 ≤ length ↔ n.toInt.natAbs ≤ length.toNat :=
    hsize ▸ UInt64.le_iff_toNat_le
  simp only [keepWord, keepCount, hsign, hle]
  split
  · split <;> omega
  · split
    next h => rw [UInt64.toNat_sub_of_le _ _ (hle.2 h), hsize]
    next h => rw [UInt64.toNat_zero]; omega

/-- In words of 64 bits the size of a count, the rows that it keeps and those that it leaves out are
as many as they are among the integers. -/
structure InWords (length : UInt64) (n : Int64) : Prop where
  size : n.abs.toUInt64.toNat = n.toInt.natAbs
  kept : (keepWord length n).toNat = keepCount length.toNat n.toInt
  left : (length - keepWord length n).toNat = length.toNat - keepCount length.toNat n.toInt

theorem inWords (length : UInt64) (n : Int64) : InWords length n := by
  have hkept := toNat_keepWord length n
  have hle : keepWord length n ≤ length := by
    rw [UInt64.le_iff_toNat_le, hkept]
    exact keepCount_le length.toNat n.toInt
  refine ⟨toNat_abs n, hkept, ?_⟩
  rw [UInt64.toNat_sub_of_le _ _ hle, hkept]

end Table

namespace Invocation

open Number

/-! ## The rows that are kept -/

/-- There is no count, or one of zero. -/
def NotAsked (count : Option Int64) : Prop := count = none ∨ count = some 0

/-- The rows that an invocation keeps. A positive count keeps so many at its end of the rows, a
negative one leaves out so many at the other end, and neither reaches beyond the rows there are. -/
inductive Selects {α : Type} (i : Invocation) (rows : List α) : List α → Prop
  | first {n : Int64} {kept rest : List α} (hhead : i.head = some n) (hn : 0 < n.toInt)
      (hrows : rows = kept ++ rest) (hlength : kept.length = min n.toInt.natAbs rows.length) :
      Selects i rows kept
  | butLast {n : Int64} {kept rest : List α} (hhead : i.head = some n) (hn : n.toInt < 0)
      (hrows : rows = kept ++ rest) (hlength : rest.length = min n.toInt.natAbs rows.length) :
      Selects i rows kept
  | last {n : Int64} {rest kept : List α} (hhead : NotAsked i.head) (htail : i.tail = some n)
      (hn : 0 < n.toInt) (hrows : rows = rest ++ kept)
      (hlength : kept.length = min n.toInt.natAbs rows.length) : Selects i rows kept
  | butFirst {n : Int64} {rest kept : List α} (hhead : NotAsked i.head) (htail : i.tail = some n)
      (hn : n.toInt < 0) (hrows : rows = rest ++ kept)
      (hlength : rest.length = min n.toInt.natAbs rows.length) : Selects i rows kept
  | all (hhead : NotAsked i.head) (htail : NotAsked i.tail) : Selects i rows rows

variable {i : Invocation} {t : Table} {n : Int64}

theorem notAsked_or (count : Option Int64) :
    NotAsked count ∨ ∃ n : Int64, count = some n ∧ n.toInt ≠ 0 := by
  cases count with
  | none => exact .inl (.inl rfl)
  | some n =>
    by_cases h : n.toInt = 0
    · exact .inl (.inr (congrArg some (Int64.toInt_inj.1 h)))
    · exact .inr ⟨n, rfl, h⟩

theorem filter_of_notAsked {count : Option Int64} (h : NotAsked count) :
    count.filter (· ≠ 0) = none := by
  rcases h with rfl | rfl <;> rfl

theorem filter_of_ne (h : n.toInt ≠ 0) : (some n).filter (· ≠ 0) = some n := by
  refine Option.filter_some_pos ?_
  rw [decide_eq_true_iff]
  rintro rfl
  exact h rfl

theorem truncate_of_head (hhead : i.head = some n) (hn : n.toInt ≠ 0) :
    i.truncate t = t.head n.toInt := by
  simp only [truncate, hhead, filter_of_ne hn]

theorem truncate_of_tail (hhead : NotAsked i.head) (htail : i.tail = some n) (hn : n.toInt ≠ 0) :
    i.truncate t = t.tail n.toInt := by
  simp only [truncate, filter_of_notAsked hhead, htail, filter_of_ne hn]

theorem truncate_of_notAsked (hhead : NotAsked i.head) (htail : NotAsked i.tail) :
    i.truncate t = t := by
  simp only [truncate, filter_of_notAsked hhead, filter_of_notAsked htail]

/-- A table keeps its first rows, its last rows or all. -/
theorem truncate_cases (i : Invocation) : (∃ n, ∀ t, i.truncate t = t.head n) ∨
    (∃ n, ∀ t, i.truncate t = t.tail n) ∨ ∀ t, i.truncate t = t := by
  rcases notAsked_or i.head with hhead | ⟨n, hhead, hn⟩
  · rcases notAsked_or i.tail with htail | ⟨n, htail, hn⟩
    · exact .inr (.inr fun _ => truncate_of_notAsked hhead htail)
    · exact .inr (.inl ⟨n.toInt, fun _ => truncate_of_tail hhead htail hn⟩)
  · exact .inl ⟨n.toInt, fun _ => truncate_of_head hhead hn⟩

theorem columns_truncate (i : Invocation) (t : Table) : (i.truncate t).columns = t.columns := by
  obtain ⟨n, h⟩ | ⟨n, h⟩ | h := i.truncate_cases
  · rw [h]
    rfl
  · rw [h]
    rfl
  · rw [h]

theorem rows_truncate_of_selects {kept : List (List Cell)} (h : i.Selects t.rows kept) :
    (i.truncate t).rows = kept := by
  cases h with
  | first hhead hn hrows hlength =>
    rw [truncate_of_head hhead hn.ne', Table.rows_head, Table.keepCount_of_nonneg _ hn.le]
    rw [hrows]
    exact List.take_left' hlength
  | butLast hhead hn hrows hlength =>
    rw [truncate_of_head hhead hn.ne, Table.rows_head, Table.keepCount_of_neg _ hn]
    have hall : t.rowCount = _ := congrArg List.length hrows
    rw [List.length_append] at hall
    rw [hrows, List.take_left']
    change _ = min _ t.rowCount at hlength
    omega
  | last hhead htail hn hrows hlength =>
    rw [truncate_of_tail hhead htail hn.ne', Table.rows_tail, Table.keepCount_of_nonneg _ hn.le]
    have hall : t.rowCount = _ := congrArg List.length hrows
    rw [List.length_append] at hall
    rw [hrows, List.drop_left']
    change _ = min _ t.rowCount at hlength
    omega
  | butFirst hhead htail hn hrows hlength =>
    rw [truncate_of_tail hhead htail hn.ne, Table.rows_tail, Table.keepCount_of_neg _ hn]
    rw [hrows, List.drop_left']
    change _ = min _ t.rowCount at hlength
    omega
  | all hhead htail => rw [truncate_of_notAsked hhead htail]

/-- Whatever the counts are, they select rows. -/
theorem exists_selects {α : Type} (i : Invocation) (rows : List α) :
    ∃ kept, i.Selects rows kept := by
  have hsplit (k : Nat) : rows = rows.take k ++ rows.drop k := (List.take_append_drop k rows).symm
  rcases notAsked_or i.head with hhead | ⟨n, hhead, hn⟩
  · rcases notAsked_or i.tail with htail | ⟨n, htail, hn⟩
    · exact ⟨_, .all hhead htail⟩
    · rcases lt_or_gt_of_ne hn with hneg | hpos
      · exact ⟨_, .butFirst hhead htail hneg (hsplit n.toInt.natAbs) List.length_take⟩
      · refine ⟨_, .last hhead htail hpos (hsplit (rows.length - n.toInt.natAbs)) ?_⟩
        rw [List.length_drop]
        omega
  · rcases lt_or_gt_of_ne hn with hneg | hpos
    · refine ⟨_, .butLast hhead hneg (hsplit (rows.length - n.toInt.natAbs)) ?_⟩
      rw [List.length_drop]
      omega
    · exact ⟨_, .first hhead hpos (hsplit n.toInt.natAbs) List.length_take⟩

theorem rows_truncate_eq_iff {kept : List (List Cell)} :
    (i.truncate t).rows = kept ↔ i.Selects t.rows kept :=
  eq_iff_of_exists (exists_selects i t.rows) fun _ => rows_truncate_of_selects

theorem Selects.isInfix {α : Type} {rows kept : List α} (h : i.Selects rows kept) :
    kept <:+: rows := by
  cases h with
  | first _ _ hrows _ | butLast _ _ hrows _ => exact hrows ▸ (List.prefix_append _ _).isInfix
  | last _ _ _ hrows _ | butFirst _ _ _ hrows _ => exact hrows ▸ (List.suffix_append _ _).isInfix
  | all => exact List.infix_rfl

/-- Only the least integer has no opposite. -/
theorem toInt_neg_of_ne (h : n ≠ Int64.minValue) : (-n).toInt = -n.toInt := by
  have hne : n.toInt ≠ -2 ^ 63 :=
    fun he => h (Int64.toInt_inj.1 (he.trans Int64.toInt_minValue.symm))
  have hle := n.le_toInt
  have hlt := n.toInt_lt
  rw [Int64.toInt_neg]
  refine Int.bmod_eq_of_le ?_ ?_ <;> omega

/-- **An invocation keeps one block of the rows**, the one that its counts select, under the same
columns. Counts are computed in words of 64 bits as among the integers, the least of them too. The
first rows that a count keeps and the last that its opposite keeps are all rows, each once. -/
theorem truncate_selects_block (i : Invocation) (t : Table) :
    (i.truncate t).columns = t.columns ∧
    (i.truncate t).rows <:+: t.rows ∧
    (∀ kept, (i.truncate t).rows = kept ↔ i.Selects t.rows kept) ∧
    (∀ (length : UInt64) (n : Int64), Table.InWords length n) ∧
    ∀ n : Int64, n ≠ 0 → n ≠ Int64.minValue →
      (t.head n.toInt).rows ++ (t.tail (-n).toInt).rows = t.rows := by
  refine ⟨columns_truncate i t, ?_, fun kept => rows_truncate_eq_iff, Table.inWords, ?_⟩
  · have hselects : i.Selects t.rows (i.truncate t).rows := rows_truncate_eq_iff.1 rfl
    exact hselects.isInfix
  · intro n hzero hleast
    have hn : n.toInt ≠ 0 := fun h => hzero (Int64.toInt_inj.1 h)
    rw [toInt_neg_of_ne hleast]
    exact t.head_append_tail hn

/-- Three rows. -/
def threeRows : Table where
  columns := ["day"]
  rows := [[.int 1], [.int 2], [.int 3]]
  nodup := by decide
  width := by decide

theorem truncate_selects_block_threeRows :
    (-2 : Int64) ≠ 0 ∧ (-2 : Int64) ≠ Int64.minValue ∧
      (threeRows.head (-2 : Int64).toInt).rows = [[.int 1]] ∧
      (threeRows.tail (2 : Int64).toInt).rows = [[.int 2], [.int 3]] ∧
      (threeRows.head (-2 : Int64).toInt).rows ++ (threeRows.tail (-(-2 : Int64)).toInt).rows =
        threeRows.rows ∧
      Invocation.Selects { function := "f", head := some 0, tail := some Int64.minValue }
        threeRows.rows [] := by
  have hzero : (-2 : Int64) ≠ 0 := by decide
  have hleast : (-2 : Int64) ≠ Int64.minValue := by decide
  obtain ⟨-, -, hselects, -, hsplit⟩ := truncate_selects_block
    { function := "f", head := some 0, tail := some Int64.minValue } threeRows
  exact ⟨hzero, hleast, by decide, by decide, hsplit (-2) hzero hleast,
    (hselects []).1 (by decide)⟩

end Invocation

end MarketQuery
