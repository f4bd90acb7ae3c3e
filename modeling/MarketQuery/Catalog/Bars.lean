import MarketQuery.Answer
import MarketQuery.Date
import MarketQuery.Failure
import MarketQuery.Text.Split

/-!
# Bars

A bar sums up the trade in a symbol over a period. It comes as a line of fields between commas.

* `Period`, `Adjustment`: what an argument may ask for, with the number that asks for it;
* `readDate`: an argument that is a date;
* `barTable`: a row for each line that has all fields, with or without a column for the symbol.
-/

namespace MarketQuery.Catalog

/-- The period that a bar covers. -/
inductive Period
  | day
  | week
  | month
  deriving DecidableEq, Repr

namespace Period

/-- The period that a word names. -/
def read (word : String) : Except ArgumentFault Period :=
  match word with
  | "daily" => .ok day
  | "weekly" => .ok week
  | "monthly" => .ok month
  | _ => .error (.period word)

/-- The number that asks for a period. -/
def code : Period → Nat
  | day => 101
  | week => 102
  | month => 103

end Period

/-- How earlier prices are made to compare with later ones. -/
inductive Adjustment
  | none
  | forward
  | backward
  deriving DecidableEq, Repr

namespace Adjustment

/-- The adjustment that a word names. -/
def read (word : String) : Except ArgumentFault Adjustment :=
  match word with
  | "" => .ok none
  | "qfq" => .ok forward
  | "hfq" => .ok backward
  | _ => .error (.adjustment word)

/-- The number that asks for an adjustment. -/
def code : Adjustment → Nat
  | none => 0
  | forward => 1
  | backward => 2

end Adjustment

/-- The date that an argument gives, written without dashes. Blanks around it are ignored. -/
def readDate (name text : String) : Except ArgumentFault String :=
  let cs := Text.trimList text.toList
  match Date.read? cs with
  | some date => .ok date.compact
  | none => .error (.date name (.ofList cs))

/-! ## Tables of bars -/

/-- The column of the dates. -/
def dateColumn : String := "日期"

/-- The columns behind the date, with the cell that each takes from a number. The volume is a count
and stays an integer; all else is measured. -/
def barMeasures : List (String × (Cell → Cell)) :=
  [("开盘", Cell.asFloat), ("收盘", Cell.asFloat), ("最高", Cell.asFloat), ("最低", Cell.asFloat),
   ("成交量", id), ("成交额", Cell.asFloat), ("振幅", Cell.asFloat), ("涨跌幅", Cell.asFloat),
   ("涨跌额", Cell.asFloat), ("换手率", Cell.asFloat)]

/-- The columns of a table of bars; `symbol?` is a column that tells the symbol, with its cell. -/
def barColumns (symbol? : Option (String × String)) : List String :=
  dateColumn :: symbol?.toList.map (·.1) ++ barMeasures.map (·.1)

/-- The cells of a line; none if it has too few fields. -/
def barRow? (symbol? : Option (String × String)) (line : String) : Option (List Cell) :=
  match Text.splitAt ',' line.toList with
  | date :: fields =>
    if barMeasures.length ≤ fields.length then
      let measure (m : String × (Cell → Cell)) (field : List Char) : Cell :=
        m.2 (.ofNumberText (.ofList field))
      some (.text (.ofList date) :: symbol?.toList.map (.text ·.2) ++
        List.zipWith measure barMeasures fields)
    else none
  | [] => none

/-- A row for each line that has all fields. -/
def barTable (symbol? : Option (String × String)) (lines : List String) :
    Except Table.Error Table :=
  Table.ofRows (barColumns symbol?) (lines.filterMap (barRow? symbol?))

end MarketQuery.Catalog
