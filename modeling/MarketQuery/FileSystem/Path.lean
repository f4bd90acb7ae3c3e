import MarketQuery.Text.Split

/-!
# Paths

A path is a list of pieces between slashes. An empty piece or a dot leads nowhere, except for a dot
at the start of a path, which counts as its first name.

* `Path.ancestors`: a path and the paths of the directories above it, nearest first;
* `Path.parent?`: the path of the directory above.
-/

namespace MarketQuery.Path

open Text

/-- A piece that leads nowhere. -/
def isTrivial (piece : List Char) : Bool := piece = [] || piece = ['.']

/-- The start of a path that is no piece below another, and the rest. -/
def splitStart : List Char → List Char × List Char
  | '/' :: rest => (['/'], rest)
  | ['.'] => (['.'], [])
  | '.' :: '/' :: rest => (['.'], '/' :: rest)
  | path => ([], path)

/-- The ends of reversed pieces that begin with a name. -/
def nameEnds : List (List Char) → List (List (List Char))
  | [] => []
  | piece :: rest => if isTrivial piece then nameEnds rest else (piece :: rest) :: nameEnds rest

/-- What is left when all pieces behind the start are gone, nearest first. -/
def startEnds (start : List Char) : List (List Char) :=
  if start = ['.'] then [start, []] else [start]

/-- A path and the paths of the directories above it, nearest first. -/
def ancestors (path : List Char) : List (List Char) :=
  let (start, body) := splitStart path
  (nameEnds (splitAt '/' body).reverse).map (fun pieces => start ++ join '/' pieces.reverse) ++
    startEnds start

/-- The path of the directory above; none for the root and for no path. -/
def parent? (path : List Char) : Option (List Char) := (ancestors path)[1]?

end MarketQuery.Path
