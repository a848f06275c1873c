import ObjectGateway.Host.FileTree
import ObjectGateway.HostPath
/-!
# Files by path

A path is followed name by name from the root or from the directory `here`.
What is passed through must be a directory. The operations fail for the reason
found first on the way.
-/
namespace ObjectGateway.FileTree

/-- Where a name leads from a location. The node it names may be missing. -/
def step (t : FileTree) (at_ : Location) (name : String) : Except IoError Location :=
  match t.find? at_ with
  | none => .error .notFound
  | some (.file _) => .error .notADirectory
  | some .dir =>
    if name = "." then .ok at_
    else if name = ".." then .ok at_.dropLast
    else if name.utf8ByteSize > HostPath.maxName then .error .nameTooLong
    else .ok (at_ ++ [name])

/-- The location that a path leads to. The node there may be missing. -/
def reach (t : FileTree) (here : Location) (p : HostPath) : Except IoError Location :=
  if p.text.toList.contains '\x00' then .error .nulInName
  else if p.isEmpty then .error .notFound
  else if p.text.utf8ByteSize > HostPath.maxLength then .error .nameTooLong
  else p.names.foldlM t.step (if p.isAbsolute then [] else here)

/-- The node that a path names, and where it stands. -/
def nodeAt (t : FileTree) (here : Location) (p : HostPath) : Except IoError (Location × Node) := do
  let l ← t.reach here p
  match t.find? l with
  | none => throw .notFound
  | some .dir => return (l, .dir)
  | some (.file data) => if p.isClosed then throw .notADirectory else return (l, .file data)

def existsAt (t : FileTree) (here : Location) (p : HostPath) : Bool :=
  (t.nodeAt here p).isOk

def isDirAt (t : FileTree) (here : Location) (p : HostPath) : Bool :=
  match t.nodeAt here p with
  | .ok (_, .dir) => true
  | _ => false

/-- Whether a path ends in a name of its own, which a new node could have. -/
def endsInName (p : HostPath) : Bool :=
  match p.names.getLast? with
  | none | some "." | some ".." => false
  | some _ => true

/-! ## Directories -/

def makeDirAt (t : FileTree) (here : Location) (p : HostPath) : Except IoError FileTree := do
  let l ← t.reach here p
  if !endsInName p || (t.find? l).isSome then throw .alreadyExists
  return t.set l .dir

/-- Make a directory and those above it that are missing. One that is there
already is no failure. The directories made before a failure stay. -/
def makeDirsAt (t : FileTree) (here : Location) (p : HostPath) :
    Except IoError Unit × FileTree :=
  go p.parts.reverse p t
where
  go : (reversed : List String) → HostPath → FileTree → Except IoError Unit × FileTree
    | [], _, t => (.ok (), t)
    | _ :: above, p, t =>
      let settle (t : FileTree) (cause : IoError) : Except IoError Unit × FileTree :=
        if t.isDirAt here p then (.ok (), t) else (.error cause, t)
      match t.makeDirAt here p with
      | .ok t => (.ok (), t)
      | .error .notFound =>
        match go above (HostPath.ofParts p.isAbsolute above.reverse) t with
        | (.error cause, t) => (.error cause, t)
        | (.ok (), t) =>
          match t.makeDirAt here p with
          | .ok t => (.ok (), t)
          | .error cause => settle t cause
      | .error cause => settle t cause

/-- Remove a directory with all it holds. A path that ends in dots empties the
directory and leaves it where it is. -/
def removeDirsAt (t : FileTree) (here : Location) (p : HostPath) :
    Except IoError Unit × FileTree :=
  match t.nodeAt here p with
  | .error cause => (.error cause, t)
  | .ok (_, .file _) => (.error .notADirectory, t)
  | .ok (l, .dir) =>
    if endsInName p then (.ok (), t.prune l)
    else
      let emptied := if l = [] then t.prune l else (t.prune l).set l .dir
      (if p.names.getLast? = some ".." then .ok () else .error .invalidArgument, emptied)

/-! ## Files -/

/-- Where a file may be written, and what it holds if it is there. -/
def writableAt (t : FileTree) (here : Location) (p : HostPath) :
    Except IoError (Location × Option Bytes) := do
  let l ← t.reach here p
  if !endsInName p || p.isClosed then throw .isADirectory
  match t.find? l with
  | some .dir => throw .isADirectory
  | some (.file data) => return (l, some data)
  | none => return (l, none)

/-- Write a whole file, in place of an older one. -/
def writeFileAt (t : FileTree) (here : Location) (p : HostPath) (data : Bytes) :
    Except IoError FileTree := do
  let (l, _) ← t.writableAt here p
  return t.set l (.file data)

/-- Create a file unless it is there, in which case it is left alone. -/
def touchAt (t : FileTree) (here : Location) (p : HostPath) : Except IoError FileTree := do
  match ← t.writableAt here p with
  | (_, some _) => return t
  | (l, none) => return t.set l (.file [])

def readFileAt (t : FileTree) (here : Location) (p : HostPath) : Except IoError Bytes := do
  match ← t.nodeAt here p with
  | (_, .dir) => throw .isADirectory
  | (_, .file data) => return data

def removeFileAt (t : FileTree) (here : Location) (p : HostPath) : Except IoError FileTree := do
  match ← t.nodeAt here p with
  | (_, .dir) => throw .isADirectory
  | (l, .file _) => return t.erase l

/-- Open a file without a name in a directory. The empty path is the working
directory. The tree stays as it is. -/
def openUnnamedAt (t : FileTree) (here : Location) (p : HostPath) : Except IoError Unit := do
  if p.isEmpty then return ()
  match ← t.nodeAt here p with
  | (_, .dir) => return ()
  | (_, .file _) => throw .notADirectory

end ObjectGateway.FileTree
