import ObjectGateway.Backend.Program
import ObjectGateway.Entry
import ObjectGateway.Text.Decimal
/-!
# Readers

A reader gives access to the payload of one resolved object. It has no
position: each read names its offset and makes at most one backend call.
-/
namespace ObjectGateway

structure Reader where
  entry : ObjectEntry
  path : String
deriving DecidableEq

/-- An operation with a buffer of its caller. What it has written there stays, even if it fails. -/
abbrev Buffered (α : Type) := ExceptT FsError (StateT Bytes Program) α

/-- The outcome of one read into a buffer. -/
structure ReadResult where
  /-- The number of bytes read. -/
  count : Nat
  /-- Whether the read ended at the last byte of the object. -/
  eof : Bool
  /-- The buffer afterwards; bytes behind those read are as they were. -/
  buffer : Bytes
deriving DecidableEq

namespace Reader

/-- At most `wanted` bytes from `offset` on, and whether the object ends there. -/
def fetch (r : Reader) (wanted : Nat) (offset : Int) : FsProgram (Bytes × Bool) :=
  match offset with
  | .negSucc _ => throw (.invalid r.path "negative read offset")
  | .ofNat offset =>
    if r.entry.size ≤ offset then return ([], true)
    else if wanted = 0 then return ([], false)
    else do
      let length := min wanted (r.entry.size - offset)
      let data ← FsProgram.call r.path (.getRange r.entry.bucket r.entry.id offset length)
      let data := data.take wanted
      return (data, data.length < wanted || offset + data.length == r.entry.size)

/-- Read as much as the buffer holds, and write it there once all of it has come: the number of
bytes, and whether the object ends behind them. -/
def fill (r : Reader) (offset : Int) : Buffered (Nat × Bool) := do
  let buffer ← get
  let (data, eof) ← ExceptT.mk (StateT.lift (r.fetch buffer.length offset).run)
  set (data ++ buffer.drop data.length)
  return (data.length, eof)

/-- Read into a buffer, as much as it holds. -/
def readAt (r : Reader) (buffer : Bytes) (offset : Int) : FsProgram ReadResult :=
  ExceptT.mk do
    let (outcome, after) ← (r.fill offset).run.run buffer
    return outcome.map fun (count, eof) => ⟨count, eof, after⟩

/-- Where a window that starts at `offset` ends. -/
def windowEnd (r : Reader) (offset : Nat) (limit : Option Nat) : Nat :=
  match limit with
  | none => r.entry.size
  | some limit => min (offset + limit) r.entry.size

/-- The number of bytes in a window. -/
def windowLength (r : Reader) (offset : Nat) (limit : Option Nat) : Nat :=
  r.windowEnd offset limit - offset

/-- The pieces of the window from `pos` to `stop`, up to the first failure. The
bound is the number of pieces that may be read. -/
def piecesFrom (r : Reader) (stop chunk : Nat) : (bound pos : Nat) →
    Program (List Bytes × Option FsError)
  | 0, _ => return ([], none)
  | bound + 1, pos => do
    if stop ≤ pos then return ([], none)
    if Decimal.maxInt64 < pos then return ([], some (.invalid r.path "offset out of range"))
    match ← (r.fetch (min (stop - pos) chunk) pos).run with
    | .error cause => return ([], some cause)
    | .ok (data, _) =>
      if data.isEmpty then return ([], none)
      let (pieces, failure) ← r.piecesFrom stop chunk bound (pos + data.length)
      return (data :: pieces, failure)

/-- A window of the payload in pieces of at most `chunk` bytes (at least one),
each from one backend call, and the failure that broke it off, if any. -/
def stream (r : Reader) (offset : Nat) (limit : Option Nat) (chunk : Nat) :
    Program (List Bytes × Option FsError) :=
  r.piecesFrom (r.windowEnd offset limit) (max chunk 1) (r.windowLength offset limit) offset

end Reader
end ObjectGateway
