import MarketQuery.Answer
import MarketQuery.Rendering.Column

/-!
# Answers for a reader

* `Table.render`: one line for the names and one for each row, the columns flush right;
* `Series.render`: one line for each entry, labels flush left and values flush right;
* `Answer.render`: any answer.
-/

namespace MarketQuery

namespace Rendering

open Text

/-- Blanks that widen a text to a width. -/
def padding (columns : Nat) (s : String) : String :=
  .ofList (List.replicate (columns - width s) ' ')

/-- A text flush right. -/
def flushRight (columns : Nat) (s : String) : String := padding columns s ++ s

/-- A text flush left. -/
def flushLeft (columns : Nat) (s : String) : String := s ++ padding columns s

/-- The greatest width among texts. -/
def widest (texts : List String) : Nat := (texts.map width).foldl max 0

/-- Lines without a break behind the last. -/
def joinLines (lines : List String) : String := "\n".intercalate lines

end Rendering

open Rendering

namespace Table

/-- The cells of a column, from the first row to the last. -/
def column (t : Table) (index : Nat) : List Cell := t.rows.map (·.getD index .null)

/-- How each column is written. -/
def formats (t : Table) (limit : Nat) : List ColumnFormat :=
  (List.range t.columnCount).map fun index => .choose limit (t.column index)

/-- The names and below them the written cells, row by row. -/
def fields (t : Table) (limit : Nat) : List (List String) :=
  t.columns :: t.rows.map (List.zipWith ColumnFormat.write (t.formats limit))

/-- The width of each column. -/
def widths (t : Table) (limit : Nat) : List Nat :=
  let fields := t.fields limit
  (List.range t.columnCount).map fun index => widest (fields.map (·.getD index ""))

/-- The lines of a table that has rows. -/
def lines (t : Table) (limit : Nat) : List String :=
  let widths := t.widths limit
  (t.fields limit).map fun row => " ".intercalate (List.zipWith flushRight widths row)

/-- A table for a reader. -/
def render (t : Table) (limit : Nat) : String :=
  if t.isEmpty then
    "Empty DataFrame\nColumns: [" ++ ", ".intercalate t.columns ++ "]\nIndex: []"
  else joinLines (t.lines limit)

end Table

namespace Series

/-- The lines of a series. -/
def lines (s : Series) : List String :=
  let labels := widest (s.entries.map (·.1))
  let values := widest (s.entries.map (·.2.display))
  s.entries.map fun (label, c) =>
    flushLeft labels label ++ "    " ++ flushRight values c.display

/-- A series for a reader. -/
def render (s : Series) : String :=
  if s.entries.isEmpty then "Series([], )" else joinLines s.lines

end Series

/-- An answer for a reader. -/
def Answer.render (limit : Nat) : Answer → String
  | table t => t.render limit
  | series s => s.render
  | scalar c => c.display
  | text s => s

end MarketQuery
