import MarketQuery.Value

/-!
# Cells

* `Cell`: one value of a result, possibly missing;
* `Cell.toBinary64?`: the size of a numeric cell;
* `Cell.display`: a cell for a reader;
* `Cell.ofNumberText`: the cell of a number that came as text.
-/

namespace MarketQuery

/-- One value of a result. -/
inductive Cell
  | null
  | bool (b : Bool)
  | int (n : Int64)
  | float (x : Binary64)
  | text (s : String)
  deriving DecidableEq, Repr

namespace Cell

/-- The value is missing. -/
def isNull : Cell → Bool
  | null => true
  | _ => false

/-- The number in a cell; an integer gives the nearest one. -/
def toBinary64? : Cell → Option Binary64
  | int n => some (.ofInt n.toInt)
  | float x => some x
  | _ => none

/-- An integer cell turned into the nearest number. -/
def asFloat : Cell → Cell
  | int n => float (.ofInt n.toInt)
  | c => c

/-- A cell for a reader. A missing value is shown like a number that is none. -/
def display : Cell → String
  | null => Number.nanText
  | bool b => boolText b
  | int n => intText n
  | float x => Number.write .plain x
  | text s => s

/-- The cell of an argument's value. -/
def ofValue : Value → Cell
  | .bool b => bool b
  | .int n => int n
  | .float x => float x
  | .text s => text s

/-- A dash or nothing stands for a missing value. -/
def isPlaceholder (cs : List Char) : Bool := cs = [] || cs = ['-']

/-- The cell of a number written as text: an integer if it can be read as one, else a number with
a fraction, else missing. Blanks around it are ignored. -/
def ofNumberText (s : String) : Cell :=
  let cs := Text.trimList s.toList
  if isPlaceholder cs then null
  else
    match Number.readInt64? cs with
    | some n => int n
    | none =>
      match Number.readBinary64? cs with
      | some x => float x
      | none => null

end Cell

end MarketQuery
