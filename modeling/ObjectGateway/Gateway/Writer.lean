import ObjectGateway.Gateway.Settings
/-!
# Writers

Writes are staged, at any offset and in any order, and nothing reaches the
backend before the writer is closed; then the staged bytes are uploaded as one
new object. A later write covers an earlier one, and what no write covers reads
as zeros.
-/
namespace ObjectGateway

/-- The accepted writes of a writer, in order: offset and data of each. -/
structure Staging where
  writes : List (Nat × Bytes) := []
deriving DecidableEq

namespace Staging

/-- The end of the furthest write. -/
def length (s : Staging) : Nat :=
  (s.writes.map fun (offset, data) => offset + data.length).foldl max 0

/-- A content with one write laid over it. A write without data changes nothing,
wherever it is. -/
def overlay (content : Bytes) (write : Nat × Bytes) : Bytes :=
  let (offset, data) := write
  if data.isEmpty then content
  else
    let before := content.take offset
    before ++ List.replicate (offset - before.length) 0 ++ data ++
      content.drop (offset + data.length)

/-- The staged bytes: every write laid over those before it. -/
def content (s : Staging) : Bytes :=
  s.writes.foldl overlay []

/-- Read `remaining` bytes back in chunks of `size`, the last one shorter. A
content that is too short for a chunk breaks off there. The bound is the number
of chunks that may be read. -/
def readBack (size : Nat) : (bound remaining : Nat) → Bytes → List (Except IoError Bytes)
  | 0, _, _ => []
  | bound + 1, remaining, content =>
    if remaining = 0 then []
    else
      let wanted := min remaining size
      let chunk := content.take wanted
      if chunk.length < wanted then [.error .endOfFile]
      else .ok chunk :: readBack size bound (remaining - wanted) (content.drop wanted)

/-- The staged bytes as an upload in chunks of `size`. -/
def upload (s : Staging) (size : Nat) : PayloadStream :=
  ⟨readBack (max size 1) s.length s.length s.content, false⟩

end Staging

/-- An object that is being written: where it goes, what it will be called, and
what has been staged. -/
structure Writer where
  bucket : BucketId
  name : String
  path : String
  staging : Staging := {}
deriving DecidableEq

namespace Writer

/-- The number of bytes staged so far. -/
def length (w : Writer) : Nat := w.staging.length

/-- Stage `data` at `offset`. -/
def writeAt (w : Writer) (data : Bytes) (offset : Int) : Except FsError Writer :=
  match offset with
  | .negSucc _ => .error (.invalid w.path "negative write offset")
  | .ofNat offset => .ok { w with staging := ⟨w.staging.writes ++ [(offset, data)]⟩ }

/-- Upload what is staged as one new top-level object. -/
def close (g : Gateway) (w : Writer) : FsProgram ObjectId :=
  FsProgram.call w.path <| .putObject
    { bucket := w.bucket
      owner := g.settings.owner
      attributes := .named Attributes.fileNameKey w.name g.now }
    (w.staging.upload g.maxChunk)

end Writer
end ObjectGateway
