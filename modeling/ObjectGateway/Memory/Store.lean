import ObjectGateway.Backend.Command
import ObjectGateway.Host
/-!
# The store in memory

Buckets in the order of their creation, each with its objects in the order of
their upload. The store counts the calls it gets. For tests it can be stalled,
so that no call is ever answered, and told to fail for chosen objects.
-/
namespace ObjectGateway

namespace Memory

structure StoredObject where
  info : ObjectMeta
  parent : Option ObjectId
  payload : Bytes
deriving DecidableEq

structure StoredBucket where
  info : BucketMeta
  objects : List StoredObject := []
deriving DecidableEq

structure Store where
  buckets : List StoredBucket := []
  failingHeads : List ObjectId := []
  /-- The sizes of the chunks of the last successful upload. -/
  lastUpload : List Nat := []
  calls : Nat := 0
  stalled : Bool := false
  maxChunk : Nat := defaultMaxChunk

/-! ## Looking up -/

def StoredBucket.find? (b : StoredBucket) (id : ObjectId) : Option StoredObject :=
  b.objects.find? fun o => o.info.id == id

def Store.bucket? (s : Store) (id : BucketId) : Option StoredBucket :=
  s.buckets.find? fun b => b.info.id == id

def Store.object? (s : Store) (bucket : BucketId) (id : ObjectId) : Option StoredObject :=
  (s.bucket? bucket).bind (·.find? id)

/-- The number of objects in a bucket, auxiliary ones included. -/
def Store.objectCount (s : Store) (bucket : BucketId) : Nat :=
  match s.bucket? bucket with
  | some b => b.objects.length
  | none => 0

/-- Whether an object satisfies a filter. -/
def StoredObject.satisfies (o : StoredObject) : SearchFilter → Bool
  | .root => o.parent.isNone
  | .attribute key value => o.info.attributes.pairs.contains (key, value)

/-! ## Changing -/

/-- Replace the objects of the bucket `id`. -/
def Store.onObjects (s : Store) (id : BucketId)
    (f : List StoredObject → List StoredObject) : Store :=
  { s with
    buckets := s.buckets.map fun b =>
      if b.info.id = id then { b with objects := f b.objects } else b }

def Store.addBucket (s : Store) (b : StoredBucket) : Store :=
  { s with buckets := s.buckets ++ [b] }

def Store.removeBucket (s : Store) (id : BucketId) : Store :=
  { s with buckets := s.buckets.filter fun b => b.info.id != id }

def Store.addObject (s : Store) (o : StoredObject) : Store :=
  s.onObjects o.info.bucket (· ++ [o])

def Store.removeObject (s : Store) (bucket : BucketId) (id : ObjectId) : Store :=
  s.onObjects bucket (·.filter fun o => o.info.id != id)

/-! ## Being told -/

/-- Answer no call, or answer calls again. -/
def Store.setStalled (s : Store) (stalled : Bool) : Store :=
  { s with stalled }

/-- From now on fail for the head of an object. -/
def Store.failHead (s : Store) (id : ObjectId) : Store :=
  { s with failingHeads := id :: s.failingHeads }

/-! ## Calls -/

/-- The metadata of an object, unless its head is set to fail. -/
def Store.head (s : Store) (bucket : BucketId) (id : ObjectId) :
    Except BackendError ObjectMeta :=
  if s.failingHeads.contains id then .error (.io (.custom "injected head failure"))
  else
    match s.object? bucket id with
    | some o => .ok o.info
    | none => .error .notFound

/-- A range of a payload, which must lie within it. -/
def Store.range (s : Store) (bucket : BucketId) (id : ObjectId) (offset length : Nat) :
    Except BackendError Bytes :=
  match s.object? bucket id with
  | none => .error .notFound
  | some o =>
    if offset + length ≤ o.payload.length then .ok (o.payload.slice offset length)
    else .error (.outOfRange offset length o.payload.length)

def Store.search (s : Store) (bucket : BucketId) (filters : List SearchFilter) :
    Except BackendError (List ObjectId) :=
  match s.bucket? bucket with
  | none => .error .notFound
  | some b => .ok ((b.objects.filter fun o => filters.all o.satisfies).map (·.info.id))

/-- Store the chunks of an upload as one new object. -/
def upload (header : ObjectHeader) (chunks : List Bytes) (w : World Store) :
    Except BackendError ObjectId × World Store :=
  match w.store.bucket? header.bucket with
  | none => (.error .notFound, w)
  | some _ =>
    let (id, host) := w.host.draw .object
    let payload := chunks.flatten
    let info : ObjectMeta :=
      ⟨id, header.bucket, header.owner, payload.length, header.attributes⟩
    let store := w.store.addObject ⟨info, header.parent, payload⟩
    (.ok id, ⟨host, { store with lastUpload := chunks.map List.length }⟩)

def createBucket (header : BucketHeader) (w : World Store) :
    Except BackendError BucketId × World Store :=
  let (id, host) := w.host.draw .bucket
  let info : BucketMeta := ⟨id, header.owner, header.policy, header.acl, header.attributes⟩
  (.ok id, ⟨host, w.store.addBucket { info }⟩)

/-- A call that is answered at once. -/
def answered {α : Type} (r : Except BackendError α × World Store) : Call (World Store) α where
  answer := some r.1
  after := r.2

/-- A call that only looks. -/
def looked {α : Type} (w : World Store) (r : Except BackendError α) : Call (World Store) α :=
  answered (r, w)

/-- A call that is never answered. -/
def waiting {α : Type} (w : World Store) : Call (World Store) α where
  firstWait := some w
  answer := none
  after := w

/-- What a call does once it has been counted. -/
def serve (w : World Store) : (c : Command) → Call (World Store) c.Answer
  | .headObject bucket id => looked w (w.store.head bucket id)
  | .getRange bucket id offset length => looked w (w.store.range bucket id offset length)
  | .putObject header payload =>
    match payload.drain with
    | .failed cause => looked w (.error (.io cause))
    | .waiting _ => waiting w
    | .complete chunks => answered (upload header chunks w)
  | .deleteObject bucket id =>
    match w.store.object? bucket id with
    | none => looked w (.error .notFound)
    | some _ => answered (.ok (), { w with store := w.store.removeObject bucket id })
  | .searchObjects bucket filters => looked w (w.store.search bucket filters)
  | .getBucket id =>
    looked w <|
      match w.store.bucket? id with
      | some b => .ok b.info
      | none => .error .notFound
  | .listBuckets owner =>
    looked w (.ok ((w.store.buckets.filter fun b => b.info.owner == owner).map (·.info.id)))
  | .putBucket header => answered (createBucket header w)
  | .deleteBucket id =>
    match w.store.bucket? id with
    | none => looked w (.error .notFound)
    | some _ => answered (.ok (), { w with store := w.store.removeBucket id })

/-- Count a call, then serve it unless the store is stalled. -/
def call (c : Command) (w : World Store) : Call (World Store) c.Answer :=
  let w := { w with store := { w.store with calls := w.store.calls + 1 } }
  if w.store.stalled then waiting w else serve w c

def backend : Backend (World Store) where
  call := call
  maxChunk w := w.store.maxChunk

end Memory
end ObjectGateway
