import ObjectGateway.Durable.Address
import ObjectGateway.Fault.System
import ObjectGateway.Text.LetterCase
/-!
# How a database is opened

A database is opened by a name and with an access. A name that begins with
`file:` is a URL: its path is percent-encoded, its host may only be this
machine, and its options choose the way of accessing files and may narrow the
access. Every other name is taken as it is.
-/
namespace ObjectGateway.Durable

/-- What may be done with a database. -/
structure Access where
  readOnly : Bool := false
  write : Bool := false
  /-- The file is created if it is missing. -/
  create : Bool := false
  /-- The database lives in memory only. -/
  memory : Bool := false
deriving DecidableEq, Repr

namespace Access

/-- The number by which two accesses to files are compared. -/
def weight (a : Access) : Nat :=
  a.readOnly.toNat + 2 * a.write.toNat + 4 * a.create.toNat + 128 * a.memory.toNat

/-- The access that an option asks for. -/
def ofName? : String → Option Access
  | "ro" => some { readOnly := true }
  | "rw" => some { write := true }
  | "rwc" => some { write := true, create := true }
  | "memory" => some { memory := true }
  | _ => none

/-- Narrow an access to the one that an option asks for. A database in memory may
always be asked for. -/
def narrow (a : Access) (name : String) : Except DatabaseError Access :=
  match ofName? name with
  | none => .error (.noSuchAccessMode name)
  | some asked =>
    if { asked with memory := false }.weight > a.weight then .error (.accessNotAllowed name)
    else .ok asked

end Access

/-- The way of accessing files that keeps them in memory. -/
def memoryVfs : String := "memdb"

/-- The ways of accessing files that are known, the usual one first. -/
def knownVfs : List String :=
  ["unix", "unix-none", "unix-dotfile", "unix-excl", memoryVfs]

/-- A database that is to be opened. -/
structure Opening where
  path : String
  access : Access
  vfs : String := "unix"
  /-- Nobody else changes the file, and it is not changed here. -/
  immutable : Bool := false
deriving DecidableEq, Repr

namespace Opening

/-! ## Names that are URLs -/

/-- A part of a URL, decoded. A byte of zero ends it. -/
def decodePart (raw : List Char) : String :=
  let bytes := Percent.decode (Bytes.ofText (String.ofList raw))
  Utf8.decodeLenient (bytes.takeWhile (· != 0))

/-- The options of a URL in order. One without a name does not count. -/
def options (raw : List Char) : List (String × String) :=
  let pairs := (Segments.split '&' raw).map fun part =>
    let (name, value) := Segments.cut '=' part
    (decodePart name, decodePart (value.getD []))
  pairs.filter fun pair => !pair.1.isEmpty

/-- What follows the host of a URL, which may be left out. -/
def afterHost (cs : List Char) : Except DatabaseError (List Char) :=
  match Segments.after? "//".toList cs with
  | none => .ok cs
  | some rest =>
    let host := String.ofList (rest.takeWhile (· != '/'))
    if host.isEmpty || host == "localhost" then .ok (rest.dropWhile (· != '/'))
    else .error (.invalidAuthority host)

/-- The value of leading decimal or hexadecimal digits; zero when it does not fit
into 31 bits. -/
def leadingNumber (cs : List Char) : Nat :=
  let digits (base : Nat) (cs : List Char) : List Nat :=
    (cs.map fun c => (Hex.digit? c).getD base).takeWhile (· < base)
  let value (base : Nat) (cs : List Char) : Nat :=
    (digits base cs).foldl (fun n d => base * n + d) 0
  let n :=
    match cs with
    | '0' :: 'x' :: rest | '0' :: 'X' :: rest => value 16 rest
    | _ => value 10 cs
  if n < 0x80000000 then n else 0

/-- Whether the value of an option means yes: one of four words, or a number
whose last byte is not zero. -/
def isTrue (value : String) : Bool :=
  match value.toList with
  | c :: cs =>
    if c.isDigit then leadingNumber (c :: cs) % 256 != 0
    else ["on", "yes", "true"].contains (LetterCase.lower value)
  | [] => false

/-- Take in one option. -/
def set (o : Opening) (option : String × String) : Except DatabaseError Opening :=
  match option with
  | ("vfs", value) => .ok { o with vfs := value }
  | ("cache", value) =>
    if value == "shared" || value == "private" then .ok o else .error (.noSuchCacheMode value)
  | ("mode", value) => do return { o with access := ← o.access.narrow value }
  | _ => .ok o

/-- Whether the file counts as one that nobody changes. The first option of that
name decides. -/
def saysImmutable (options : List (String × String)) : Bool :=
  ((options.lookup "immutable").map isTrue).getD false

/-- What a name means under a given access. -/
def ofName (name : String) (access : Access) : Except DatabaseError Opening := do
  let o : Opening ←
    match Segments.after? "file:".toList name.toList with
    | none => pure { path := name, access }
    | some rest =>
      let (rest, _) := Segments.cut '#' (← afterHost rest)
      let (path, query) := Segments.cut '?' rest
      let found := ((query.map options).getD [])
      found.foldlM set { path := decodePart path, access, immutable := saysImmutable found }
  if knownVfs.contains o.vfs then return o else throw (.noSuchVfs o.vfs)

/-! ## Addresses -/

/-- The access that an address asks for. -/
def accessOf (a : Address) : Access where
  readOnly := a.readOnly
  write := !a.readOnly
  create := a.create && !a.readOnly
  memory := a.inMemory

/-- The name under which a database in memory is opened. -/
def memoryName : String := "file:memory"

/-- A value as it stands in the options of a URL that is put together here: a
space becomes a plus sign, and a byte of zero ends it. -/
def optionValue (value : String) : String :=
  String.ofList ((value.toList.takeWhile (· != '\x00')).map fun c => if c = ' ' then '+' else c)

/-- How the database of an address is opened. When the address chooses a way of
accessing files, or says that nobody changes the file, its file name stands for
itself, up to a byte of zero. -/
def ofAddress (a : Address) : Except DatabaseError Opening := do
  let name := if a.inMemory && a.file == ":memory:" then memoryName else a.file
  if a.immutable || a.vfs.isSome then
    let path := String.ofList (name.toList.takeWhile (· != '\x00'))
    let vfs := (a.vfs.map optionValue).getD "unix"
    if knownVfs.contains vfs then
      return { path, access := accessOf a, vfs, immutable := a.immutable }
    else throw (.noSuchVfs vfs)
  else if name.toList.contains '\x00' then throw .nulInName
  else ofName name (accessOf a)

end Opening
end ObjectGateway.Durable
