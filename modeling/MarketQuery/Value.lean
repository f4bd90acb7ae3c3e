import MarketQuery.Number.Notation
import MarketQuery.Number.Reader
import MarketQuery.Text.Blank
import MarketQuery.Text.Case
import MarketQuery.Text.Quoted

/-!
# Argument values

The text of an argument stands for a value: a word for a truth value, an integer, a number with a
fraction or out of the integers' range, or else the text itself.

* `Value`, `Kind`: the values and their kinds;
* `Value.coerce`: the value that a text stands for;
* `Value.display`, `Value.literal`: a value for a reader, bare and as it is put into an echo.
-/

namespace MarketQuery

/-- The value of an argument. -/
inductive Value
  | bool (b : Bool)
  | int (n : Int64)
  | float (x : Binary64)
  | text (s : String)
  deriving DecidableEq, Repr

/-- The kinds of values. -/
inductive Kind
  | boolean
  | integer
  | float
  | string
  deriving DecidableEq, Repr

/-- The name of a kind. -/
def Kind.name : Kind → String
  | boolean => "boolean"
  | integer => "integer"
  | float => "float"
  | string => "string"

/-- The word of a truth value. -/
def boolText (b : Bool) : String := if b then "true" else "false"

/-- The digits of an integer. -/
def intText (n : Int64) : String := .ofList (Number.ofInt false n.toInt)

namespace Value

/-- The value that a text stands for. Blanks around a number are ignored; around a truth value, and
in a text, they are not. -/
def coerce (raw : String) : Value :=
  if Text.sameWord raw "true" then bool true
  else if Text.sameWord raw "false" then bool false
  else
    let cs := Text.trimList raw.toList
    match Number.readInt64? cs with
    | some n => int n
    | none =>
      match Number.readBinary64? cs with
      | some x => float x
      | none => text raw

def kind : Value → Kind
  | bool _ => .boolean
  | int _ => .integer
  | float _ => .float
  | text _ => .string

/-- A value for a reader. -/
def display : Value → String
  | bool b => boolText b
  | int n => intText n
  | float x => Number.write .plain x
  | text s => s

/-- A value in an echo: a text is quoted. -/
def literal : Value → String
  | text s => Text.quote s
  | v => v.display

end Value

end MarketQuery
