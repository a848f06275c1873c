import ObjectGateway.Bytes
import ObjectGateway.Fault.Backend
import ObjectGateway.Metadata
/-!
# Backend commands

The gateway talks to storage through nine commands only. Each has a type of
answer; every one may fail instead.
-/
namespace ObjectGateway

/-- The largest upload chunk of a store for which none is chosen. -/
def defaultMaxChunk : Nat := 0x100000

/-- What an object must satisfy to be found. -/
inductive SearchFilter
  /-- Top-level objects; auxiliary ones, which have a parent, are left out. -/
  | root
  /-- Some attribute is exactly this pair. -/
  | attribute (key value : String)
deriving DecidableEq, Repr

/-- The chunks of an upload in order. A stream may break off with a failure,
and it may leave its reader waiting for ever instead of ending. -/
structure PayloadStream where
  chunks : List (Except IoError Bytes)
  endless : Bool := false

/-- What a reader gets out of a stream. -/
inductive PayloadStream.Drained
  | complete (chunks : List Bytes)
  | failed (cause : IoError)
  | waiting (chunks : List Bytes)

/-- Read a stream to its end, to its failure, or as far as it goes. -/
def PayloadStream.drain (s : PayloadStream) : Drained :=
  let rec go : List (Except IoError Bytes) → List Bytes → Drained
    | [], seen => if s.endless then .waiting seen.reverse else .complete seen.reverse
    | .ok chunk :: rest, seen => go rest (chunk :: seen)
    | .error cause :: _, _ => .failed cause
  go s.chunks []

/-- One call to a backend. -/
inductive Command
  | headObject (bucket : BucketId) (id : ObjectId)
  | getRange (bucket : BucketId) (id : ObjectId) (offset length : Nat)
  | putObject (header : ObjectHeader) (payload : PayloadStream)
  | deleteObject (bucket : BucketId) (id : ObjectId)
  | searchObjects (bucket : BucketId) (filters : List SearchFilter)
  | getBucket (id : BucketId)
  | listBuckets (owner : OwnerId)
  | putBucket (header : BucketHeader)
  | deleteBucket (id : BucketId)

namespace Command

/-- What a successful call answers. -/
abbrev Answer : Command → Type
  | headObject .. => ObjectMeta
  | getRange .. => Bytes
  | putObject .. => ObjectId
  | deleteObject .. => Unit
  | searchObjects .. => List ObjectId
  | getBucket .. => BucketMeta
  | listBuckets .. => List BucketId
  | putBucket .. => BucketId
  | deleteBucket .. => Unit

/-- The name a command goes by in messages. -/
def name : Command → String
  | headObject .. => "head_object"
  | getRange .. => "get_object_range"
  | putObject .. => "put_object"
  | deleteObject .. => "delete_object"
  | searchObjects .. => "search_objects"
  | getBucket .. => "get_container"
  | listBuckets .. => "list_containers"
  | putBucket .. => "put_container"
  | deleteBucket .. => "delete_container"

/-- Whether a command can change what is stored. -/
def isMutating : Command → Bool
  | putObject .. | deleteObject .. | putBucket .. | deleteBucket .. => true
  | _ => false

end Command

/-- How one call goes on a state `σ`, from the moment it is made. -/
structure Call (σ α : Type) where
  /-- The state left when the caller gives up the first time the call waits;
  none for a call that is answered without waiting. -/
  firstWait : Option σ := none
  /-- The answer; none for a call that waits for ever. -/
  answer : Option (Except BackendError α)
  /-- The state once the call is answered, or given up in its last wait. -/
  after : σ

/-- A storage backend with states `σ`. -/
structure Backend (σ : Type) where
  call : (c : Command) → σ → Call σ c.Answer
  /-- The largest chunk that an upload may consist of. -/
  maxChunk : σ → Nat

end ObjectGateway
