import MarketQuery.Program

/-!
# The command line

The variables and the files that a run may look at are read before it, and the files that it changed
are written after it. No server can be reached from here.
-/

open MarketQuery

/-- The variables that are looked at. -/
def variableNames : List String :=
  ["AKQ_CONFIG", "AKQ__PROVIDER__PUSH2_URL", "AKQ__PROVIDER__PUSH2HIS_URL",
   "AKQ__PROVIDER__DATACENTER_URL", "AKQ__PROVIDER__TIMEOUT_SECS", "AKQ__PROVIDER__USER_AGENT",
   "AKQ__DISPLAY__MAX_COLWIDTH"]

/-- The variables that are set. -/
def readEnvironment : IO Config.Environment :=
  variableNames.filterMapM fun name => do return (← IO.getEnv name).map (name, ·)

/-- The paths that a run may look at. -/
def pathsOf (arguments : List String) (env : Config.Environment) : List String :=
  let named := (env.get? Config.fileVariable).toList
  let stems := Config.fileName :: named
  let files := stems.flatMap fun stem => stem :: (Config.candidates stem).map (·.1)
  Config.environmentFileName :: files ++ arguments

/-- A file system with what is at a path. -/
def addPath (fs : FileSystem) (path : List Char) : IO FileSystem := do
  let file := (← IO.currentDir) / String.ofList path
  if path = [] then return fs
  else if ← file.isDir then return (fs.makeDirectories path).1
  else
    match ← (IO.FS.readFile file).toBaseIO with
    | .error _ => return fs
    | .ok content =>
      match fs.create path with
      | .ok (fs, place) => return (fs.append place content).toOption.getD fs
      | .error _ => return fs

/-- The file system as far as it is at some paths and above them. -/
def readFiles (paths : List String) : IO FileSystem :=
  (paths.flatMap fun path => (Path.ancestors path.toList).reverse).foldlM addPath .empty

/-- Writes what a run has changed in the working directory. -/
def writeFiles (before after : FileSystem) : IO Unit := do
  let home := after.workingDirectory.reverse
  for (place, node) in after.nodes do
    let path := place.reverse
    if home.isPrefixOf path ∧ before.node? place ≠ some node then
      let target := (← IO.currentDir) / "/".intercalate (path.drop home.length)
      match node with
      | .directory => IO.FS.createDirAll target
      | .file content => IO.FS.writeFile target content
      | .scrap octets => IO.FS.writeBinFile target ⟨octets.toArray⟩
      | _ => pure ()

def main (arguments : List String) : IO UInt32 := do
  let env ← readEnvironment
  let files ← readFiles (pathsOf arguments env)
  let outcome := Program.run arguments env Server.offline { files }
  writeFiles files outcome.session.files
  IO.print outcome.session.out.text
  IO.eprint outcome.session.err.text
  return outcome.code.toUInt32
