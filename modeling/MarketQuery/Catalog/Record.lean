import MarketQuery.Answer
import MarketQuery.Json.Field

/-!
# Answers made of records

* `FieldColumn`: a column, the field that it shows and what the field holds;
* `fieldList`: the fields to ask for;
* `recordTable`: a row for each record, numbered or not;
* `recordSeries`: an entry for each column of one record.
-/

namespace MarketQuery.Catalog

open Json

/-- A column and the field that it shows. -/
structure FieldColumn where
  name : String
  field : String
  /-- The cell of the field. -/
  read : Option Json.Value → Cell

namespace FieldColumn

/-- A column of texts. -/
def text (name field : String) : FieldColumn := ⟨name, field, textCell⟩

/-- A column of numbers. -/
def number (name field : String) : FieldColumn := ⟨name, field, numberCell⟩

/-- The cell of a record in the column. -/
def cell (column : FieldColumn) (record : Object) : Cell := column.read (record.get? column.field)

end FieldColumn

/-- The fields that columns show, each once. -/
def fieldList (columns : List FieldColumn) : String :=
  ",".intercalate (columns.map (·.field)).eraseDups

/-- The cells of a record. -/
def recordRow (columns : List FieldColumn) (record : Object) : List Cell :=
  columns.map (·.cell record)

/-- A row for each record. -/
def recordTable (columns : List FieldColumn) (records : List Object) : Except Table.Error Table :=
  Table.ofRows (columns.map (·.name)) (records.map (recordRow columns))

/-- The name of the column that numbers the rows. -/
def ordinalColumn : String := "序号"

/-- A row for each record, behind its number from 1. -/
def numberedTable (columns : List FieldColumn) (records : List Object) :
    Except Table.Error Table :=
  Table.ofRows (ordinalColumn :: columns.map (·.name))
    (records.mapIdx fun i record => .int (.ofNat (i + 1)) :: recordRow columns record)

/-- An entry for each column. -/
def recordSeries (name : String) (columns : List FieldColumn) (record : Object) : Series where
  name := some name
  entries := columns.map fun column => (column.name, column.cell record)

end MarketQuery.Catalog
