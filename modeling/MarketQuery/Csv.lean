import MarketQuery.FileSystem.Buffer
import MarketQuery.Table

/-!
# Tables as comma-separated values

A file starts with a byte order mark. The names and the rows follow, one record to a line, with
commas between the fields. A field with a comma, a quote or a line end stands between quotes, and
quotes in it are doubled.

* `Csv.escape`, `Csv.field`: the field of a text, of a cell;
* `Csv.encode`: the content of a file;
* `Csv.fillFile`, `Csv.writeTable`: write a table to a file that was opened, and close it;
* `Csv.save`: writes it to a path, in directories that are made where they are not there.
-/

namespace MarketQuery.Csv

/-- The field needs quotes. -/
def isSpecial (c : Char) : Bool := c = ',' || c = '"' || c = '\n' || c = '\r'

/-- Quotes doubled. -/
def doubleQuotes (cs : List Char) : List Char :=
  cs.flatMap fun c => if c = '"' then ['"', '"'] else [c]

/-- The field of a text. -/
def escape (cs : List Char) : List Char :=
  if cs.any isSpecial then '"' :: doubleQuotes cs ++ ['"'] else cs

/-- The text of a cell; a missing value has none. -/
def cellText : Cell → String
  | .null => ""
  | .bool b => boolText b
  | .int n => intText n
  | .float x => if x.isNan then "" else Number.write .source x
  | .text s => s

/-- The field of a cell. Only texts are looked at for what needs quotes. -/
def field : Cell → List Char
  | .text s => escape s.toList
  | c => (cellText c).toList

/-- The fields of a record with commas between them, without its line end. -/
def record (fields : List (List Char)) : String := .ofList (Text.join ',' fields)

/-- The byte order mark. -/
def mark : String := "\ufeff"

/-- The fields of the records, the names first. -/
def fields (t : Table) : List (List (List Char)) :=
  t.columns.map (fun name => escape name.toList) :: t.rows.map (·.map field)

/-- The parts of a file in their order. -/
def parts (t : Table) : List String :=
  mark :: (fields t).flatMap fun fields => [record fields, "\n"]

/-- The content of a file. -/
def encode (t : Table) : String := String.join (parts t)

/-- Why a table is not saved. -/
inductive SaveError
  | directory (path : String) (cause : IoError)
  | file (path : String) (cause : IoError)
  | writing (cause : IoError)
  | finishing (path : String) (cause : IoError)
  deriving DecidableEq, Repr

def SaveError.message : SaveError → String
  | directory path cause => "cannot create directory " ++ path ++ ": " ++ cause.message
  | file path cause => "cannot create " ++ path ++ ": " ++ cause.message
  | writing cause => cause.message
  | finishing path cause => "cannot write " ++ path ++ ": " ++ cause.message

/-- Makes the directory above a path. -/
def makeParent (fs : FileSystem) (path : List Char) : FileSystem × Except SaveError Unit :=
  match Path.parent? path with
  | none | some [] => (fs, .ok ())
  | some parent =>
    let (fs, made) := fs.makeDirectories parent
    (fs, made.mapError (.directory (.ofList parent)))

/-- Writes a table to a file that was opened. -/
def fillFile (t : Table) (path : String) (f : BufferedFile) :
    BufferedFile × Except SaveError Unit :=
  match f.writeAll (parts t) with
  | (f, .error e) => (f, .error (.writing e))
  | (f, .ok ()) =>
    let (f, flushed) := f.flush
    (f, flushed.mapError (.finishing path))

/-- Writes a table to a file that was opened, and closes it. -/
def writeTable (t : Table) (path : String) (f : BufferedFile) :
    FileSystem × Except SaveError Unit :=
  let (f, written) := fillFile t path f
  (f.close, written)

/-- Saves a table at a path, and gives the count of its rows. What was done before a failure
stays. -/
def save (t : Table) (path : String) (fs : FileSystem) : FileSystem × Except SaveError Nat :=
  match makeParent fs path.toList with
  | (fs, .error e) => (fs, .error e)
  | (fs, .ok ()) =>
    match fs.create path.toList with
    | .error e => (fs, .error (.file path e))
    | .ok (system, place) =>
      let (fs, written) := writeTable t path { system, place }
      (fs, written.map fun _ => t.rowCount)

end MarketQuery.Csv
