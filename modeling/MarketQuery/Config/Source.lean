import MarketQuery.Config.Format
import MarketQuery.FileSystem

/-!
# Configuration files

A file is named with its extension or without; the extension tells the format.

* `findFile`: the file of a name and its format;
* `loadFile`: the settings in the file of a name;
* `findAbove?`: a file in the working directory or in one above it.
-/

namespace MarketQuery.Config

/-- Why no configuration is loaded. -/
inductive ConfigError
  | noFile (name : String)
  | unreadable (name : String)
  /-- A place before the start of a list or too far beyond its end. -/
  | noPlace
  | wrongType (key : String)
  deriving DecidableEq, Repr

def ConfigError.message : ConfigError → String
  | noFile name => "configuration file \"" ++ name ++ "\" not found"
  | unreadable name => "configuration file \"" ++ name ++ "\" cannot be read"
  | noPlace => "a setting has no place in its list"
  | wrongType key => "invalid type for key " ++ key

/-- The extension of a name: what stands behind the last point of its last piece, unless that point
comes first. -/
def extensionOf (name : String) : String :=
  let last := (Text.splitAt '/' name.toList).getLastD []
  match (Text.splitAt '.' last).reverse with
  | extension :: before :: rest =>
    if before = [] ∧ rest = [] then "" else .ofList extension
  | _ => ""

/-- A path leads to something other than a directory. -/
def isFile (fs : FileSystem) (name : String) : Bool :=
  match fs.find name.toList with
  | .ok node => node.isFile
  | .error _ => false

/-- A name that an extension can be put behind: without what leads nowhere at its end. Nothing can
be put behind a step to a directory above. -/
def stem? (name : String) : Option String :=
  match (Text.splitAt '/' name.toList).reverse.dropWhile Path.isTrivial with
  | [] => none
  | last :: above =>
    if last = ['.', '.'] then none else some (.ofList (Text.join '/' (last :: above).reverse))

/-- The files that a name without its extension may be for, each with its format. -/
def candidates (name : String) : List (String × Format) :=
  match stem? name with
  | none => []
  | some stem =>
    Format.all.flatMap fun format =>
      format.extensions.map fun extension => (stem ++ "." ++ extension, format)

/-- The file of a name and its format. A file of the very name needs a known extension; else an
extension is added. -/
def findFile (fs : FileSystem) (name : String) : Except ConfigError (String × Format) :=
  let found? :=
    if isFile fs name then (Format.ofExtension? (extensionOf name)).map (name, ·)
    else (candidates name).find? fun (name, _) => isFile fs name
  match found? with
  | some file => .ok file
  | none => .error (.noFile name)

/-- The settings in a file, each with its path. -/
def readFile (fs : FileSystem) (file : String × Format) :
    Except ConfigError (List (KeyPath × Item)) :=
  match fs.read file.1.toList with
  | .error _ => .error (.unreadable file.1)
  | .ok content =>
    match file.2.read? content with
    | some (.table members) => .ok (members.map fun (key, item) => (KeyPath.ofText key, item))
    | _ => .error (.unreadable file.1)

/-- The settings in the file of a name, each with its path. -/
def loadFile (fs : FileSystem) (name : String) : Except ConfigError (List (KeyPath × Item)) := do
  readFile fs (← findFile fs name)

/-- The content of a file in a directory or in one above it. -/
def findAbove? (fs : FileSystem) (name : String) : Location → Option String
  | [] => contentAt? []
  | directory :: above => contentAt? (directory :: above) <|> findAbove? fs name above
where
  /-- The content of the file in a directory. -/
  contentAt? (directory : Location) : Option String :=
    match fs.node? (name :: directory) with
    | some (.file content) => some content
    | _ => none

end MarketQuery.Config
