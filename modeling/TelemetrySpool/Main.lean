import TelemetrySpool.Service

/-!
# The command

Starts the service with the variables of the environment, as far as that can be done without
listening: the directories it has made are created, and a refusal is shown and ends the command with
a failure.
-/

open TelemetrySpool

/-- The values that the environment has for the variables of the service. -/
def readEnvironment : IO Environment := do
  let names := Variable.configFile :: Variable.all.map (·.name)
  let values ← names.mapM fun name => return (name, ← IO.getEnv name)
  return fun name => (values.lookup name).join

/-- What stands at a path on the disk. -/
def observeEntry (path : Path) : IO (Option Entry) := do
  try return some (.file (← IO.FS.readBinFile path).data.toList)
  catch _ =>
    try
      let _ ← IO.FS.realPath path
      return some .directory
    catch _ => return none

/-- A file tree with what stands on the disk at a path and above it. -/
def observe (files : FileTree) (path : Path) : IO FileTree :=
  (Path.ancestors path).reverse.foldlM (fun files path => do
    match files.resolve path, ← observeEntry path with
    | .ok place, some entry => return files.set place entry
    | _, _ => return files) files

/-- The part of the disk on which the start depends. -/
def observeDisk (environment : Environment) : IO FileTree := do
  let files ← (environment Variable.configFile).elim (pure {}) (observe {})
  match (Config.load environment files none).run.value with
  | .ok config => observe files config.outputDir
  | .error _ => return files

/-- A path to a place. -/
def pathTo (place : Place) : Path :=
  "/".intercalate (if place.head? = some "/" then place else "." :: place)

/-- Creates the directories of a file tree on the disk. -/
def createOnDisk (files : FileTree) : IO Unit :=
  files.entries.forM fun (place, entry) =>
    if entry = .directory then IO.FS.createDirAll (pathTo place) else pure ()

/-- A host that the start does not ask: no record is written before the service listens. -/
def host : Host := { volume := fun _ => .constant (.refused "not asked"), offset := fun _ => 0 }

/-- Starts the service. -/
def main : IO UInt32 := do
  let environment ← readEnvironment
  let store : Store := { files := ← observeDisk environment, clock := .still .epoch }
  let started := (Service.start environment host store).value
  createOnDisk started.2.files
  match started.1 with
  | .error error => do
    (← IO.getStderr).putStr error.text
    return 1
  | .ok _ => return 0
