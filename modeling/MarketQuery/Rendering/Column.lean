import MarketQuery.Cell
import MarketQuery.Text.Width

/-!
# How the cells of a column are written

A column of numbers that has a fraction or a gap is written with one count of decimals, the least
that shows each of its numbers to six places; if one of them would vanish at six places, the whole
column is written with exponents. Every other column shows its cells as they are, cut to the limit.

* `ColumnFormat`: the three ways; `ColumnFormat.choose`: the way for a list of cells;
* `ColumnFormat.write`: a cell of the column;
* `truncate`: a text cut to a limit of columns.
-/

namespace MarketQuery.Rendering

open Text

/-- The longest piece at the start that takes at most so many columns, character by character. -/
def takeColumns : Nat → List Char → List Char
  | _, [] => []
  | budget, c :: rest =>
    if charWidth c ≤ budget then c :: takeColumns (budget - charWidth c) rest else []

/-- A text cut to a limit, three dots marking the cut. No limit is 0. -/
def truncate (limit : Nat) (s : String) : String :=
  if limit = 0 || width s ≤ limit then s
  else .ofList (takeColumns (limit - 3) s.toList ++ ['.', '.', '.'])

/-- The most decimals shown. -/
def precision : Nat := 6

/-- A number other than zero that is shown as zero with all decimals. -/
def vanishes : Binary64 → Bool
  | .finite _ code => code.val ≠ 0 && Number.inPlaces precision code.val = 0
  | _ => false

/-- The fewest decimals that show a number as `precision` decimals do. -/
def decimalsNeeded : Binary64 → Nat
  | .finite _ code =>
    let n := Number.inPlaces precision code.val
    ((List.range precision).find? fun d => n % Nat.pow 10 (precision - d) = 0).getD precision
  | _ => 0

/-- How the cells of a column are written. -/
inductive ColumnFormat
  | scientific
  | decimals (count : Nat)
  | display (limit : Nat)
  deriving DecidableEq, Repr

/-- The cell is a number or a gap. -/
def isNumeric : Cell → Bool
  | .null | .int _ | .float _ => true
  | _ => false

/-- The cell is a gap or a number with a fraction. -/
def isFractional : Cell → Bool
  | .null | .float _ => true
  | _ => false

namespace ColumnFormat

/-- The way to write a column of the given cells. -/
def choose (limit : Nat) (cells : List Cell) : ColumnFormat :=
  if cells.all isNumeric && cells.any isFractional && cells.any (!·.isNull) then
    let numbers := cells.filterMap Cell.toBinary64?
    if numbers.any vanishes then scientific
    else decimals ((numbers.map decimalsNeeded).foldl max 1)
  else display limit

/-- A cell of the column. -/
def write : ColumnFormat → Cell → String
  | scientific, c => Number.write .scientific (c.toBinary64?.getD .nan)
  | decimals count, c => Number.fixed count (c.toBinary64?.getD .nan)
  | display limit, c => truncate limit c.display

end ColumnFormat

end MarketQuery.Rendering
