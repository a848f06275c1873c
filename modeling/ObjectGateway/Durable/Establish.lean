import ObjectGateway.Durable.Opening
import ObjectGateway.Durable.Schema
import ObjectGateway.Host.FileTree.ByPath
/-!
# OnFiles a database

Opening a database file and making the tables that are missing in it. What the
file holds has to be a database, or nothing. Beside it there may be a journal of
an unfinished change, and a log of changes not yet taken over.
-/
namespace ObjectGateway.Durable

namespace Establish

/-- A step on a file tree that may fail as a database operation does. -/
abbrev OnFiles (α : Type) := ExceptT DatabaseError (StateM FileTree) α

/-! ## Where a database lies -/

/-- The greatest length of a path on the way to a database, in bytes. -/
def maxWay : Nat := 511

/-- The greatest length of the path of a database, in bytes. It leaves room for the
names of the files beside it. -/
def maxPath : Nat := 504

def pathLength (l : Location) : Nat := ("/" ++ l.text).utf8ByteSize

/-- Whether a location can be looked at, be it that nothing is found there. -/
def canLookAt (files : FileTree) (l : Location) : Bool :=
  match l.foldlM files.step [] with
  | .ok _ | .error .notFound => true
  | .error _ => false

/-- Follow one name of a path. Two dots take back the name before them, whatever
it stands for. -/
def follow (files : FileTree) (l : Location) (name : String) : Option Location :=
  if name = "." then some l
  else if name = ".." then some l.dropLast
  else
    let l := l ++ [name]
    if pathLength l ≤ maxWay && canLookAt files l then some l else none

/-- The location of a database by its path. -/
def locate? (files : FileTree) (here : Location) (path : HostPath) : Option Location := do
  let start := if path.isAbsolute then [] else here
  let l ← (start ++ path.names).foldlM (follow files) []
  if l.isEmpty || pathLength l > maxPath then none else some l

/-- The file beside a database with something behind its name. -/
def beside (l : Location) (ending : String) : Location :=
  l.dropLast ++ [l.getLast?.getD "" ++ ending]

def journalOf (l : Location) : Location := beside l "-journal"

def logOf (l : Location) : Location := beside l "-wal"

def indexOf (l : Location) : Location := beside l "-shm"

/-! ## Opening -/

/-- The greatest length of a path of a file kept in memory, in bytes. -/
def maxMemoryPath : Nat := 1016

/-- The content of the file of a database. A missing file is made if that is
asked for. -/
def content (access : Access) (l : Location) : OnFiles Bytes := do
  let files ← get
  match files.find? l with
  | some (.file data) => return data
  | some .dir => throw (if access.write then .cannotOpen else .readFailed)
  | none =>
    if access.create && (l.foldlM files.step []).isOk then
      set (files.set l (.file []))
      return []
    else throw .cannotOpen

/-- Whether a node is a file that holds something. -/
def isFilled : Option Node → Bool
  | some (.file data) => !data.isEmpty
  | _ => false

def erase (l : Location) : OnFiles Unit :=
  modify fun files => files.erase l

/-- Deal with what lies beside a file that holds no database yet: it belongs to
nothing. Whether anybody minds the journal depends on the way of locking. -/
def settleBlank (o : Opening) (l : Location) (minds : Bool) : OnFiles Unit := do
  let files ← get
  if minds && o.access.write && isFilled (files.find? (journalOf l)) then erase (journalOf l)
  unless o.immutable do
    match files.find? (logOf l) with
    | some .dir => throw .deleteFailed
    | log => if isFilled log then erase (logOf l)

/-- Deal with the journal beside a database. One that begins with a byte other than
zero is of an unfinished change, which is taken back. -/
def settleJournal (l : Location) (writable : Bool) : OnFiles Unit := do
  match (← get).find? (journalOf l) with
  | some .dir => throw .readFailed
  | some (.file (b :: _)) =>
    if b ≠ 0 then
      if writable then erase (journalOf l) else throw .rollbackNeeded
  | _ => return ()

/-- The way of accessing files that locks one by a directory beside it. -/
def directoryLocks : String := "unix-dotfile"

/-- Take the lock of a database where it is a directory. -/
def takeLock (o : Opening) (l : Location) : OnFiles Unit := do
  let lock := beside l ".lock"
  if o.vfs == directoryLocks && !o.immutable then
    if (lock.getLast?.getD "").utf8ByteSize > HostPath.maxName then throw .lockFailed
    if ((← get).find? lock).isSome then throw .locked

/-- The ways of accessing files under which no log can be kept. -/
def withoutLog : List String := ["unix-none", directoryLocks]

/-- Deal with the log of a database that keeps one. Who may only read leaves it
and its index where they are. -/
def settleLog (o : Opening) (raw : Array UInt8) (l : Location) : OnFiles Unit := do
  if Image.keepsLog raw && !o.immutable then
    if withoutLog.contains o.vfs then throw .cannotOpen
    if !o.access.write then
      modify fun files =>
        [logOf l, indexOf l].foldl (fun files l =>
          if (files.find? l).isNone then files.set l (.file []) else files) files

/-- Whether a file beside a database can be written. -/
def canKeep (files : FileTree) (l : Location) : Bool :=
  match files.find? l with
  | some .dir => false
  | _ => (l.getLast?.getD "").utf8ByteSize ≤ HostPath.maxName

/-! ## The tables -/

/-- Change a database: the one in the image, or one that is still to be made. The
journal that is written on the way is removed in the end. -/
def change (o : Opening) (image : Option Image) (l : Location) : OnFiles Unit := do
  if !o.access.write || o.immutable || image.any fun i => !i.isWritable then throw .readOnly
  unless image.any fun i => Image.keepsLog i.content do
    unless canKeep (← get) (journalOf l) do throw .cannotOpen
    erase (journalOf l)
  if image.any fun i => !i.canGrow then throw .malformed

/-- Check that the rows of a table can be read. -/
def checkRows (image : Option Image) (s : Schema) : Schema.Statement → OnFiles Unit
  | .table .. => return ()
  | .index _ table _ =>
    match image, s.find? table with
    | some i, some (.table _ (some root)) => if i.isTree root then return () else throw .malformed
    | _, _ => return ()

/-- Run one statement on a schema. -/
def runStatement (o : Opening) (image : Option Image) (l : Location) (s : Schema)
    (statement : Schema.Statement) : OnFiles Schema := do
  match s.apply statement with
  | .error cause => throw cause
  | .ok none => return s
  | .ok (some after) =>
    change o image l
    checkRows image s statement
    return after

/-- Make the tables that are missing. -/
def makeTables (o : Opening) (image : Option Image) (l : Location) (s : Schema) :
    OnFiles Unit := do
  let _ ← Schema.statements.foldlM (runStatement o image l) s

/-- Open a database in a file and make its tables. -/
def inFile (o : Opening) (here : Location) : OnFiles Unit := do
  match locate? (← get) here ⟨o.path⟩ with
  | none => throw .cannotOpen
  | some l =>
    let bytes ← content o.access l
    takeLock o l
    let minds := !o.immutable && o.vfs != directoryLocks
    if Image.isBlank bytes then
      settleBlank o l minds
      makeTables o none l {}
    else
      if minds then settleJournal l o.access.write
      let raw := bytes.toArray
      unless Image.isKnown raw do throw .notADatabase
      settleLog o raw l
      let i ← (Image.ofContent raw : Except DatabaseError Image)
      makeTables o (some i) l (← (Schema.ofImage i : Except DatabaseError Schema))

/-- Open a database and make its tables. One that lives in memory is new. -/
def database (o : Opening) (here : Location) : OnFiles Unit :=
  let fresh (writable : Bool) : OnFiles Unit :=
    if writable then return () else throw .readOnly
  if o.access.memory || o.path == ":memory:" || o.path.isEmpty then fresh (!o.access.readOnly)
  else if o.vfs == memoryVfs then
    if o.path.utf8ByteSize > maxMemoryPath then throw .cannotOpen
    else fresh (!o.access.readOnly && !o.immutable)
  else inFile o here

end Establish
end ObjectGateway.Durable
