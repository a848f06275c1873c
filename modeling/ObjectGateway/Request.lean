import ObjectGateway.Path
import ObjectGateway.Text.LetterCase
/-!
# Requests

A request is a method of the file protocol applied to one path, or to two for
the methods that name another place. Requests are built from their wire form:
a method name, a path and possibly a second path.
-/
namespace ObjectGateway

/-- The methods of the file protocol. -/
inductive Method
  | list
  | stat
  | readlink
  | get
  | put
  | openFile
  | mkdir
  | remove
  | rmdir
  | setstat
  | rename
  | link
  | symlink
deriving DecidableEq, Repr

namespace Method

def all : List Method :=
  [list, stat, readlink, get, put, openFile, mkdir, remove, rmdir, setstat, rename, link, symlink]

def name : Method → String
  | list => "List"
  | stat => "Stat"
  | readlink => "Readlink"
  | get => "Get"
  | put => "Put"
  | openFile => "Open"
  | mkdir => "Mkdir"
  | remove => "Remove"
  | rmdir => "Rmdir"
  | setstat => "Setstat"
  | rename => "Rename"
  | link => "Link"
  | symlink => "Symlink"

/-- The methods that a read-only gateway refuses. -/
def isMutating : Method → Bool
  | put | openFile | mkdir | remove | rmdir => true
  | _ => false

/-- The method of a name, in any ASCII letter case. -/
def ofName? (name : String) : Option Method :=
  all.find? fun m => LetterCase.same m.name name

/-- What is said of a name that belongs to no method. -/
def unknownMessage (name : String) : String :=
  "unknown method `" ++ name ++ "`"

end Method

/-- A request whose paths have been read. -/
inductive Request
  | list (path : FsPath)
  | stat (path : FsPath)
  | readlink (path : FsPath)
  | get (path : FsPath)
  | put (path : FsPath)
  | openFile (path : FsPath)
  | mkdir (path : FsPath)
  | remove (path : FsPath)
  | rmdir (path : FsPath)
  | setstat (path : FsPath)
  | rename (source destination : FsPath)
  | link (target link : FsPath)
  | symlink (target link : FsPath)
deriving DecidableEq, Repr

namespace Request

/-- The request that a method makes of a path and a second path. The second is
read only when the method wants one. -/
def build (method : Method) (path : FsPath) (second : Except FsError FsPath) :
    Except FsError Request :=
  match method with
  | .list => .ok (.list path)
  | .stat => .ok (.stat path)
  | .readlink => .ok (.readlink path)
  | .get => .ok (.get path)
  | .put => .ok (.put path)
  | .openFile => .ok (.openFile path)
  | .mkdir => .ok (.mkdir path)
  | .remove => .ok (.remove path)
  | .rmdir => .ok (.rmdir path)
  | .setstat => .ok (.setstat path)
  | .rename => second.map fun other => .rename path other
  | .link => second.map fun other => .link other path
  | .symlink => second.map fun other => .symlink other path

/-- The request of a wire form. A wrong method name is reported first, then a
wrong path, then a missing or wrong second path. -/
def ofWire (method path : String) (target : Option String) : Except FsError Request := do
  let some m := Method.ofName? method
    | throw (.unsupported path (Method.unknownMessage method))
  let p ← FsPath.parse path
  build m p <|
    match target with
    | none => .error (.invalid path "missing target path")
    | some raw => FsPath.parse raw

def method : Request → Method
  | list _ => .list
  | stat _ => .stat
  | readlink _ => .readlink
  | get _ => .get
  | put _ => .put
  | openFile _ => .openFile
  | mkdir _ => .mkdir
  | remove _ => .remove
  | rmdir _ => .rmdir
  | setstat _ => .setstat
  | rename _ _ => .rename
  | link _ _ => .link
  | symlink _ _ => .symlink

/-- The path a request acts on. -/
def path : Request → FsPath
  | list p | stat p | readlink p | get p | put p | openFile p | mkdir p | remove p | rmdir p
  | setstat p => p
  | rename source _ => source
  | link _ l => l
  | symlink _ l => l

/-- The other path of a request, if it has one. -/
def second? : Request → Option FsPath
  | rename _ destination => some destination
  | link target _ => some target
  | symlink target _ => some target
  | _ => none

end Request
end ObjectGateway
