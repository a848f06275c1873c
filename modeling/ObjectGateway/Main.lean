import ObjectGateway.Startup
/-!
# Command line

The part of the disk that a run may touch is taken into a file tree, the run
works on that tree, and what it has made is written back. No transport is part
of this program: a service that is ready to listen says so and ends.
-/
namespace ObjectGateway.CommandLine

open Config

/-- The variables that a run may read. -/
def variableNames : List String :=
  Startup.logVariable :: Switch.all.filterMap fun
    | .setting s => some s.variable
    | _ => none

def readEnvironment : IO Environment := do
  let found ← variableNames.mapM fun name => do return (name, ← IO.getEnv name)
  return fun name =>
    match found.lookup name with
    | some (some value) => .text value
    | _ => .absent

/-- The working directory as a location. -/
def workDir : IO Location := do
  return (HostPath.mk (← IO.currentDir).toString).names

/-- Where a location lies on the disk. -/
def diskPath (l : Location) : String := "/" ++ l.text

/-- What stands on the disk at the given locations. -/
def load (places : List Location) : IO FileTree := do
  let mut files : FileTree := {}
  for l in places do
    let path := (← IO.currentDir) / diskPath l
    if ← path.isDir then
      files := files.set l .dir
    else if ← path.pathExists then
      files := files.set l (.file (← IO.FS.readBinFile path).toList)
  return files

/-- Write what differs from `before` to the disk. -/
def save (before after : FileTree) : IO Unit := do
  for (l, node) in after.nodes do
    unless before.find? l = some node do
      match node with
      | .dir => IO.FS.createDirAll (diskPath l)
      | .file data => IO.FS.writeBinFile (diskPath l) ⟨data.toArray⟩

def run (line : List String) : IO UInt32 := do
  let env ← readEnvironment
  let workDir ← workDir
  let files ← load (Startup.places line env workDir)
  let outcome := Startup.run line env { files, ids := ⟨BitVec.ofNat 128, 1⟩, workDir }
  save files outcome.files
  IO.print outcome.stdout
  unless outcome.complaint.isEmpty do
    IO.eprintln outcome.complaint
  match outcome.exit with
  | some code => return UInt32.ofNat code
  | none =>
    IO.eprintln "ready to listen; no transport is part of this program"
    return 0

end ObjectGateway.CommandLine

def main (line : List String) : IO UInt32 :=
  ObjectGateway.CommandLine.run line
