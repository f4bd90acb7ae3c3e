import MarketQuery.Cell
import MarketQuery.Json.Value

/-!
# Cells of JSON fields

* `numberCell`: a field that holds a number, bare or as text;
* `textCell`: a field that holds a text;
* `Object.get?`: the field of a name.
-/

namespace MarketQuery.Json

/-- The cell of a number; an integer beyond 64 bits with a sign gives the nearest float. -/
def Number.cell : Number → Cell
  | integer n => if Number.fitsInt64 n then .int (.ofInt n) else .float (.ofInt n)
  | float x => .float x

/-- The cell of a field that should hold a number. -/
def numberCell : Option Value → Cell
  | some (.number n) => n.cell
  | some (.string s) => .ofNumberText s
  | _ => .null

/-- The cell of a field that should hold a text. -/
def textCell : Option Value → Cell
  | some (.string s) => if Cell.isPlaceholder s.toList then .null else .text s
  | some (.number n) => .text n.display
  | some (.bool b) => .bool b
  | _ => .null

/-- The field of a name. -/
def Object.get? (o : Object) (name : String) : Option Value := o.lookup name

end MarketQuery.Json
