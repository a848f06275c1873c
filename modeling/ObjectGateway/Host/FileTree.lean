import ObjectGateway.Bytes
import ObjectGateway.Fault.System
/-!
# File trees

A tree of directories and files, kept as the list of its nodes by location.
The root directory is always there. `find?` is the view of a tree: every
operation says through it what stands where afterwards.

Operations fail for the reason found first on the way down: a missing
component, or a file where a directory is needed.
-/
namespace ObjectGateway

/-- The names on the way from the root to a node. -/
abbrev Location := List String

namespace Location

/-- Whether `inner` is `outer` or lies below it. -/
def within : (outer inner : Location) → Bool
  | [], _ => true
  | _ :: _, [] => false
  | a :: outer, b :: inner => a == b && within outer inner

/-- The order in which a listing names locations: a directory before what it
holds, names in order. -/
def precedes : Location → Location → Bool
  | [], _ => true
  | _ :: _, [] => false
  | a :: as, b :: bs => a < b || (a == b && precedes as bs)

def text (l : Location) : String :=
  "/".intercalate l

end Location

inductive Node
  | dir
  | file (data : Bytes)
deriving DecidableEq

structure FileTree where
  nodes : List (Location × Node) := []

namespace FileTree

/-- The node at a location. -/
def find? (t : FileTree) (l : Location) : Option Node :=
  if l = [] then some .dir else (t.nodes.find? fun entry => entry.1 == l).map Prod.snd

/-- The tree with `node` at `l`, whatever stood there before. -/
def set (t : FileTree) (l : Location) (node : Node) : FileTree :=
  ⟨t.nodes.filter (fun entry => entry.1 != l) ++ [(l, node)]⟩

/-- The tree without the node at `l` itself. -/
def erase (t : FileTree) (l : Location) : FileTree :=
  ⟨t.nodes.filter fun entry => entry.1 != l⟩

/-- The tree without everything at or below `l`. -/
def prune (t : FileTree) (l : Location) : FileTree :=
  ⟨t.nodes.filter fun entry => !l.within entry.1⟩

/-- Whether anything lies below `l`. -/
def isOccupied (t : FileTree) (l : Location) : Bool :=
  t.nodes.any fun entry => l.within entry.1 && entry.1 != l

/-- The node that the names `rest` lead to from `here`. -/
def walk (t : FileTree) (here : Location) : (rest : Location) → Except IoError Node
  | [] =>
    match t.find? here with
    | some node => .ok node
    | none => .error .notFound
  | name :: rest =>
    match t.find? here with
    | none => .error .notFound
    | some (.file _) => .error .notADirectory
    | some .dir => walk t (here ++ [name]) rest

/-- The node at a location, or why there is none. -/
def lookup (t : FileTree) (l : Location) : Except IoError Node :=
  t.walk [] l

/-- Whether `l` can hold a node: its parent must be a directory. -/
def checkParent (t : FileTree) (l : Location) : Except IoError Unit := do
  match ← t.lookup l.dropLast with
  | .dir => return ()
  | .file _ => throw .notADirectory

/-! ## Directories -/

def isDir (t : FileTree) (l : Location) : Bool :=
  match t.lookup l with
  | .ok .dir => true
  | _ => false

def makeDir (t : FileTree) (l : Location) : Except IoError FileTree := do
  t.checkParent l
  match t.find? l with
  | some _ => throw .alreadyExists
  | none => return t.set l .dir

/-- Make a directory and those above it that are missing. One that is there
already is no failure. The directories made before a failure stay. -/
def makeDirs (t : FileTree) (l : Location) : Except IoError Unit × FileTree :=
  go t l.reverse
where
  go (t : FileTree) : (reversed : List String) → Except IoError Unit × FileTree
    | [] => (.ok (), t)
    | name :: above =>
      let l := (name :: above).reverse
      match t.makeDir l with
      | .ok t => (.ok (), t)
      | .error .notFound =>
        match go t above with
        | (.error cause, t) => (.error cause, t)
        | (.ok (), t) =>
          match t.makeDir l with
          | .ok t => (.ok (), t)
          | .error cause => if t.isDir l then (.ok (), t) else (.error cause, t)
      | .error cause => if t.isDir l then (.ok (), t) else (.error cause, t)

/-- Remove an empty directory. -/
def removeDir (t : FileTree) (l : Location) : Except IoError FileTree := do
  match ← t.lookup l with
  | .file _ => throw .notADirectory
  | .dir => if t.isOccupied l then throw .notEmpty else return t.erase l

/-- Remove a directory with all it holds. -/
def removeDirs (t : FileTree) (l : Location) : Except IoError FileTree := do
  match ← t.lookup l with
  | .file _ => throw .notADirectory
  | .dir => return t.prune l

/-- Remove `l` and the directories above it as long as they are empty, up to
but not including `stop`. The bound is the number of directories that may be
removed. -/
def removeEmpty (t : FileTree) (stop : Location) : (bound : Nat) → Location → FileTree
  | 0, _ => t
  | bound + 1, l =>
    if stop.within l && l != stop then
      match t.removeDir l with
      | .ok t => removeEmpty t stop bound l.dropLast
      | .error _ => t
    else t

/-! ## Files -/

/-- Write a whole file, in place of an older one. -/
def writeFile (t : FileTree) (l : Location) (data : Bytes) : Except IoError FileTree := do
  t.checkParent l
  match t.find? l with
  | some .dir => throw .isADirectory
  | _ => return t.set l (.file data)

def readFile (t : FileTree) (l : Location) : Except IoError Bytes := do
  match ← t.lookup l with
  | .dir => throw .isADirectory
  | .file data => return data

def removeFile (t : FileTree) (l : Location) : Except IoError FileTree := do
  match ← t.lookup l with
  | .dir => throw .isADirectory
  | .file _ => return t.erase l

/-- Move a file to a new name, in place of a file of that name. -/
def rename (t : FileTree) (source target : Location) : Except IoError FileTree := do
  let data ← t.readFile source
  t.checkParent target
  match t.find? target with
  | some .dir => throw .isADirectory
  | _ => return (t.erase source).set target (.file data)

/-! ## Listing -/

/-- Every node below `base` by its path from there, directories with a slash
behind, each before what it holds and names in order. -/
def listing (t : FileTree) (base : Location) : List String :=
  let below := t.nodes.filter fun entry => base.within entry.1 && entry.1 != base
  let sorted := below.mergeSort fun a b => a.1.precedes b.1
  sorted.map fun (l, node) =>
    let path := Location.text (l.drop base.length)
    match node with
    | .dir => path ++ "/"
    | .file _ => path

end FileTree
end ObjectGateway
