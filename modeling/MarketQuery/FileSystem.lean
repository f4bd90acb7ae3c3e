import MarketQuery.FileSystem.Path
import MarketQuery.Number.Notation
import MarketQuery.Text.Octets

/-!
# File systems

* `FileSystem`: directories, files, devices and the standard streams by their places, with a working
  directory; a place may be denied, and a writing to a file may fail after any number of octets;
* `IoError`: why an operation fails; `IoError.message`: its text;
* `FileSystem.locate`: the place that a path leads to;
* `FileSystem.makeDirectory`, `FileSystem.makeDirectories`, `FileSystem.create`,
  `FileSystem.append`, `FileSystem.read`: the operations;
* `node?_put`: writing at a place changes what is there and nothing else.
-/

namespace MarketQuery

/-- Why an operation on files or streams fails. -/
inductive IoError
  | notFound
  | alreadyExists
  | notDirectory
  | isDirectory
  | noSpace
  | nameTooLong
  | nulInPath
  | other (text : String)
  deriving DecidableEq, Repr

namespace IoError

/-- The text of an error that has a number. -/
def numbered (text : String) (number : Nat) : String :=
  text ++ " (os error " ++ Number.natText number ++ ")"

def message : IoError → String
  | notFound => numbered "No such file or directory" 2
  | alreadyExists => numbered "File exists" 17
  | notDirectory => numbered "Not a directory" 20
  | isDirectory => numbered "Is a directory" 21
  | noSpace => numbered "No space left on device" 28
  | nameTooLong => numbered "File name too long" 36
  | nulInPath => "file name contained an unexpected NUL byte"
  | other text => text

end IoError

/-- A place: names from the innermost to the outermost below the root. -/
abbrev Location := List String

/-- A stream that the program starts with for what it writes. -/
inductive StandardStream
  | output
  | error
  deriving DecidableEq, Repr

/-- What may be at a place. -/
inductive Node
  | directory
  | file (content : String)
  /-- A file whose octets are no text. -/
  | scrap (octets : List UInt8)
  /-- A device that takes everything and keeps nothing. -/
  | void
  /-- A device without space. -/
  | full
  /-- A standard stream of the program, which takes everything. -/
  | standard (stream : StandardStream)
  deriving DecidableEq, Repr

namespace Node

def isFile : Node → Bool
  | file _ | scrap _ => true
  | directory | void | full | standard _ => false

/-- The file of some octets. -/
def ofOctets (octets : List UInt8) : Node :=
  let text := Text.ofOctets octets
  if Text.octets text = octets then file text else scrap octets

/-- A file with octets of a text behind its content: those from one number up to another. -/
def extend (text : String) (start stop : Nat) : Node → Node
  | file content =>
    if start = 0 ∧ text.utf8ByteSize ≤ stop then file (content ++ text)
    else ofOctets (Text.octets content ++ ((Text.octets text).take stop).drop start)
  | scrap octets => ofOctets (octets ++ ((Text.octets text).take stop).drop start)
  | node => node

end Node

/-- How a writing to a file fails. -/
structure Fault where
  /-- How many octets are taken before. -/
  taken : Nat
  cause : IoError

/-- Directories, files, devices and streams by their places, and how operations on them go. -/
structure FileSystem where
  nodes : List (Location × Node)
  workingDirectory : Location
  /-- Why nothing can be made or opened at a place, though the way to it is free. -/
  denied? : Location → Option IoError := fun _ => none
  /-- Whether the next writings to files fail, one after another. All behind them succeed. -/
  faults : List (Option Fault) := []
  /-- What was written to the standard streams as to files. -/
  streamed : List (StandardStream × String) := []

namespace FileSystem

/-- The working directory, two devices, and the standard streams of a program for which they are no
files. -/
def empty : FileSystem where
  nodes := [(["work"], .directory), (["dev"], .directory), (["full", "dev"], .full),
    (["null", "dev"], .void), (["stdout", "dev"], .standard .output),
    (["stderr", "dev"], .standard .error)]
  workingDirectory := ["work"]

/-- What is at a place. The root is a directory. -/
def node? (fs : FileSystem) (place : Location) : Option Node :=
  if place = [] then some .directory else fs.nodes.lookup place

/-- Writes a node over the one at the same place, or at the end. -/
def putNode (place : Location) (node : Node) : List (Location × Node) → List (Location × Node)
  | [] => [(place, node)]
  | (p, n) :: rest => if p = place then (p, node) :: rest else (p, n) :: putNode place node rest

/-- The file system with a node at a place. -/
def put (fs : FileSystem) (place : Location) (node : Node) : FileSystem :=
  { fs with nodes := putNode place node fs.nodes }

theorem lookup_putNode (place p : Location) (node : Node) (l : List (Location × Node)) :
    (putNode place node l).lookup p = if p = place then some node else l.lookup p := by
  induction l with
  | nil => by_cases h : p = place <;> simp [putNode, h, List.lookup_cons, beq_eq_false_iff_ne.2]
  | cons e rest ih =>
    obtain ⟨p', n⟩ := e
    by_cases h : p' = place <;> by_cases hp : p = place
    · simp [putNode, h, hp]
    · simp [putNode, h, hp, List.lookup_cons, beq_eq_false_iff_ne.2]
    · have hp' : (p == p') = false := beq_eq_false_iff_ne.2 fun e => h (e ▸ hp)
      rw [putNode, if_neg h, List.lookup_cons, hp', ih, if_pos hp, if_pos hp]
    · by_cases hpp : p = p'
      · simp [putNode, h, hpp]
      · have hp' : (p == p') = false := beq_eq_false_iff_ne.2 hpp
        simp only [putNode, h, hp, if_false, List.lookup_cons, hp', ih]

theorem node?_put (fs : FileSystem) {place : Location} (h : place ≠ []) (node : Node)
    (p : Location) : (fs.put place node).node? p = if p = place then some node else fs.node? p := by
  unfold node? put
  by_cases hp : p = []
  · simp [hp, Ne.symm h]
  · simp [hp, lookup_putNode]

/-! ## Where paths lead -/

/-- The most bytes of a name. -/
def nameLimit : Nat := 255

/-- The most bytes of a path. -/
def pathLimit : Nat := 4095

/-- The place below a directory that a name names. -/
def child (directory : Location) (name : List Char) : Except IoError Location :=
  let name := String.ofList name
  if nameLimit < name.utf8ByteSize then .error .nameTooLong else .ok (name :: directory)

/-- The directory that a piece of a path leads to from a directory. -/
def enter (fs : FileSystem) (directory : Location) (piece : List Char) :
    Except IoError Location :=
  if Path.isTrivial piece then .ok directory
  else if piece = ['.', '.'] then .ok directory.tail
  else do
    let place ← child directory piece
    match fs.node? place with
    | some .directory => return place
    | some _ => throw .notDirectory
    | none => throw .notFound

/-- The last step of a path. -/
structure LastStep where
  /-- The directory from which it is taken. -/
  directory : Location
  piece : List Char
  /-- A slash stands behind it. -/
  slash : Bool

namespace LastStep

/-- The step stays at a directory or goes up, and names nothing below. -/
def isNameless (s : LastStep) : Bool := Path.isTrivial s.piece || s.piece = ['.', '.']

end LastStep

/-- The directory from which the steps of a path are taken. -/
def start (fs : FileSystem) (path : List Char) : Location :=
  if path.head? = some '/' then [] else fs.workingDirectory

/-- The last step along pieces from a directory, when all before it are taken. -/
def lastStep (fs : FileSystem) (start : Location) (pieces : List (List Char)) :
    Except IoError LastStep :=
  match pieces.reverse.dropWhile (· = []) with
  | [] => .ok ⟨start, [], true⟩
  | piece :: before => do
    let directory ← before.reverse.foldlM fs.enter start
    return ⟨directory, piece, pieces.getLast? = some []⟩

/-- The last step of a path, when all before it are taken. -/
def locate (fs : FileSystem) (path : List Char) : Except IoError LastStep :=
  if '\x00' ∈ path then .error .nulInPath
  else if path = [] then .error .notFound
  else if pathLimit < (String.ofList path).utf8ByteSize then .error .nameTooLong
  else fs.lastStep (fs.start path) (Text.splitAt '/' path)

/-- What a path leads to. -/
def find (fs : FileSystem) (path : List Char) : Except IoError Node := do
  let last ← fs.locate path
  if last.isNameless then return .directory
  else
    match fs.node? (← child last.directory last.piece) with
    | some .directory => return .directory
    | some node => if last.slash then throw .notDirectory else return node
    | none => throw .notFound

/-- A path leads to a directory. -/
def isDirectory (fs : FileSystem) (path : List Char) : Bool :=
  match fs.find path with
  | .ok .directory => true
  | _ => false

/-! ## Operations -/

/-- Makes a directory at a path. -/
def makeDirectory (fs : FileSystem) (path : List Char) : Except IoError FileSystem := do
  let last ← fs.locate path
  if last.isNameless then throw .alreadyExists
  else
    let place ← child last.directory last.piece
    match fs.node? place, fs.denied? place with
    | some _, _ => throw .alreadyExists
    | none, some e => throw e
    | none, none => return fs.put place .directory

/-- Makes a directory at the first of some paths, each the one above the path before, and those
above it that are not there. What is made stays, also on a failure. -/
def makeAll (fs : FileSystem) : List (List Char) → FileSystem × Except IoError Unit
  | [] => (fs, .ok ())
  | path :: above =>
    match fs.makeDirectory path with
    | .ok fs => (fs, .ok ())
    | .error .notFound =>
      match fs.makeAll above with
      | (fs, .error e) => (fs, .error e)
      | (fs, .ok ()) =>
        match fs.makeDirectory path with
        | .ok fs => (fs, .ok ())
        | .error e => (fs, if fs.isDirectory path then .ok () else .error e)
    | .error e => (fs, if fs.isDirectory path then .ok () else .error e)

/-- Makes a directory at a path and those above it that are not there. -/
def makeDirectories (fs : FileSystem) (path : List Char) : FileSystem × Except IoError Unit :=
  fs.makeAll ((Path.ancestors path).takeWhile fun p => p ≠ [] && p ≠ ['/'])

/-- Opens a path for writing from the start, and gives its place. A file there loses its content; if
nothing is there, a file is made. -/
def create (fs : FileSystem) (path : List Char) : Except IoError (FileSystem × Location) := do
  let last ← fs.locate path
  if last.isNameless || last.slash then throw .isDirectory
  else
    let place ← child last.directory last.piece
    match fs.node? place, fs.denied? place with
    | some .directory, _ => throw .isDirectory
    | _, some e => throw e
    | some (.file _), none | some (.scrap _), none | none, none =>
      return (fs.put place (.file ""), place)
    | some .void, none | some .full, none | some (.standard _), none => return (fs, place)

/-- A writing that failed, with how many octets of the text are taken by then. -/
structure Interruption where
  system : FileSystem
  taken : Nat
  cause : IoError

/-- One writing to a file is over. -/
def spend (fs : FileSystem) : FileSystem := { fs with faults := fs.faults.tail }

/-- Writes the octets of a text from the given one on behind the content of a file. -/
def fill (fs : FileSystem) (place : Location) (node : Node) (text : String) (start : Nat) :
    Except Interruption FileSystem :=
  match fs.faults.headD none with
  | none => .ok (fs.spend.put place (node.extend text start text.utf8ByteSize))
  | some fault =>
    let stop := start + fault.taken
    .error ⟨fs.spend.put place (node.extend text start stop), stop, fault.cause⟩

/-- Writes a text to a standard stream. -/
def stream (fs : FileSystem) (s : StandardStream) (text : String) : FileSystem :=
  { fs with streamed := fs.streamed ++ [(s, text)] }

/-- Writes a text behind what is at a place. Where an earlier writing has taken octets of it, only a
file can be there, and the text goes on behind them. -/
def append (fs : FileSystem) (place : Location) (text : String) (start : Nat := 0) :
    Except Interruption FileSystem :=
  if text.utf8ByteSize ≤ start then .ok fs
  else
    match fs.node? place with
    | some (.file content) => fs.fill place (.file content) text start
    | some (.scrap octets) => fs.fill place (.scrap octets) text start
    | some .void => .ok fs
    | some (.standard s) => .ok (fs.stream s text)
    | some .full => .error ⟨fs, start, .noSpace⟩
    | some .directory | none => .error ⟨fs, start, .notFound⟩

/-- The content of the file at a path. -/
def read (fs : FileSystem) (path : List Char) : Except IoError String := do
  match ← fs.find path with
  | .file content => return content
  | .scrap _ => throw (.other "stream did not contain valid UTF-8")
  | .directory => throw .isDirectory
  | .void | .full | .standard _ => return ""

end FileSystem

end MarketQuery
