import ObjectGateway.Durable.Layout
import ObjectGateway.Durable.Tables
import ObjectGateway.Host
/-!
# The durable store

Metadata in database tables, payloads in files. An upload writes its payload to
a file of its own first, moves it into place and records the row last; what it
has written is removed again when it fails on the way. A deletion removes the
row first, then the file and the directories that it leaves empty.

Every call waits for the database before it does anything, unless the database
cannot be reached.
-/
namespace ObjectGateway.Durable

structure Store where
  db : Database := {}
  /-- The directory that payloads lie below. -/
  base : Location
  maxChunk : Nat := defaultMaxChunk

/-! ## Looking up -/

/-- A database answer as the answer of a call. -/
def ofDatabase {α : Type} : Except DatabaseError α → Except BackendError α
  | .ok a => .ok a
  | .error cause => .error (.database cause)

/-- A row that must be there. -/
def found {ρ : Type} (r : Except DatabaseError (Option ρ)) : Except BackendError ρ := do
  match ← ofDatabase r with
  | some row => return row
  | none => throw .notFound

def Store.head (s : Store) (bucket : BucketId) (id : ObjectId) :
    Except BackendError ObjectMeta := do
  (← found (s.db.findObject bucket id)).info

/-- A range of a payload. It must lie within the recorded size, and the file must
hold it. -/
def range (w : World Store) (bucket : BucketId) (id : ObjectId) (offset length : Nat) :
    Except BackendError Bytes := do
  let row ← found (w.store.db.findObject bucket id)
  let size := row.size.toNat
  if offset + length > size then throw (.outOfRange offset length size)
  if length = 0 then return []
  match w.host.files.readFile (payloadFile w.store.base bucket id) with
  | .error .notFound => throw (.corrupt (.payloadMissing id))
  | .error cause => throw (.io cause)
  | .ok data =>
    if offset + length > data.length then throw (.io .endOfFile)
    else return data.slice offset length

def Store.search (s : Store) (bucket : BucketId) (filters : List SearchFilter) :
    Except BackendError (List ObjectId) := do
  let _ ← found (s.db.findBucket bucket)
  ofDatabase (s.db.search bucket filters)

/-! ## Changing -/

/-- The world with another file tree. -/
def withFiles (w : World Store) (files : FileTree) : World Store :=
  { w with host := { w.host with files } }

/-- The world with another database. -/
def withDb (w : World Store) (db : Database) : World Store :=
  { w with store := { w.store with db } }

/-- The tree without a file, if it is there. -/
def discard (files : FileTree) (l : Location) : FileTree :=
  match files.removeFile l with
  | .ok files => files
  | .error _ => files

/-- The row of a new object. -/
def objectRow (header : ObjectHeader) (id : ObjectId) (payload : Bytes) : ObjectRow where
  id := id
  bucket := header.bucket
  owner := header.owner
  parent := header.parent
  size := payload.length
  checksum := Md5.hex payload
  attributes := String.ofList header.attributes.encode

/-- What an upload leaves of its files when it ends before its row is recorded:
the tree without the file it was writing. -/
def abandonUpload (files : FileTree) (temp : Location) : FileTree :=
  match files.writeFile temp [] with
  | .ok files => discard files temp
  | .error _ => files

/-- Move a complete payload into place and record its row. -/
def record (header : ObjectHeader) (id : ObjectId) (payload : Bytes) (files : FileTree)
    (w : World Store) : Except BackendError ObjectId × World Store :=
  let temp := uploadFile w.store.base header.bucket id
  let target := payloadFile w.store.base header.bucket id
  match files.writeFile temp payload with
  | .error cause => (.error (.io cause), withFiles w files)
  | .ok files =>
    match files.rename temp target with
    | .error cause => (.error (.io cause), withFiles w (discard files temp))
    | .ok files =>
      match w.store.db.insertObject (objectRow header id payload) with
      | .error cause => (.error (.database cause), withFiles w (discard files target))
      | .ok db => (.ok id, withDb (withFiles w files) db)

/-- How an upload goes: no answer at all when its stream leaves it waiting. -/
def upload (header : ObjectHeader) (payload : PayloadStream) (w : World Store) :
    Option (Except BackendError ObjectId) × World Store :=
  match found (w.store.db.findBucket header.bucket) with
  | .error cause => (some (.error cause), w)
  | .ok _ =>
    let (id, host) := w.host.draw .object
    let w := { w with host }
    let temp := uploadFile w.store.base header.bucket id
    match w.host.files.makeDirs (shardDir w.store.base header.bucket id) with
    | (.error cause, files) => (some (.error (.io cause)), withFiles w files)
    | (.ok (), files) =>
      match files.writeFile temp [] with
      | .error cause => (some (.error (.io cause)), withFiles w files)
      | .ok _ =>
        match payload.drain with
        | .failed cause => (some (.error (.io cause)), withFiles w (abandonUpload files temp))
        | .waiting _ => (none, withFiles w (abandonUpload files temp))
        | .complete chunks =>
          let (answer, w) := record header id chunks.flatten files w
          (some answer, w)

/-- Delete an object's row, then its payload and the directories left empty. A
payload that is gone already is no failure. -/
def deleteObject (bucket : BucketId) (id : ObjectId) (w : World Store) :
    Except BackendError Unit × World Store :=
  match w.store.db.deleteObject bucket id with
  | .error cause => (.error (.database cause), w)
  | .ok (false, _) => (.error .notFound, w)
  | .ok (true, db) =>
    let w := withDb w db
    let tidy (files : FileTree) : World Store :=
      withFiles w <|
        files.removeEmpty (bucketRoot w.store.base bucket) 2 (shardDir w.store.base bucket id)
    match w.host.files.removeFile (payloadFile w.store.base bucket id) with
    | .ok files => (.ok (), tidy files)
    | .error .notFound => (.ok (), tidy w.host.files)
    | .error cause => (.error (.io cause), w)

/-- Create a bucket's directory, under an identifier that has been drawn for it,
then its row. -/
def createBucket (header : BucketHeader) (id : BucketId) (w : World Store) :
    Except BackendError BucketId × World Store :=
  match w.host.files.makeDirs (bucketRoot w.store.base id) with
  | (.error cause, files) => (.error (.io cause), withFiles w files)
  | (.ok (), files) =>
    let w := withFiles w files
    let row : BucketRow :=
      { id
        owner := header.owner
        policy := header.policy
        acl := header.acl.text
        attributes := String.ofList header.attributes.encode }
    match w.store.db.insertBucket row with
    | .error cause => (.error (.database cause), w)
    | .ok db => (.ok id, withDb w db)

/-- Delete a bucket's rows, then its directory. A directory that cannot be removed
is no failure. -/
def deleteBucket (id : BucketId) (w : World Store) : Except BackendError Unit × World Store :=
  match w.store.db.deleteBucket id with
  | .error cause => (.error (.database cause), w)
  | .ok (false, _) => (.error .notFound, w)
  | .ok (true, db) =>
    let files :=
      match w.host.files.removeDirs (bucketRoot w.store.base id) with
      | .ok files => files
      | .error _ => w.host.files
    (.ok (), withFiles (withDb w db) files)

/-! ## Calls -/

/-- A call that waits for the database in the state `w`. -/
def answered {α : Type} (w : World Store) (r : Except BackendError α × World Store) :
    Call (World Store) α where
  firstWait := if w.store.db.reachable then some w else none
  answer := some r.1
  after := r.2

def call : (c : Command) → World Store → Call (World Store) c.Answer
  | .headObject bucket id, w => answered w (w.store.head bucket id, w)
  | .getRange bucket id offset length, w => answered w (range w bucket id offset length, w)
  | .putObject header payload, w =>
    let (answer, after) := upload header payload w
    { firstWait := if w.store.db.reachable then some w else none, answer, after }
  | .deleteObject bucket id, w => answered w (deleteObject bucket id w)
  | .searchObjects bucket filters, w => answered w (w.store.search bucket filters, w)
  | .getBucket id, w =>
    answered w (found (w.store.db.findBucket id) >>= BucketRow.info, w)
  | .listBuckets owner, w => answered w (ofDatabase (w.store.db.listBuckets owner), w)
  | .putBucket header, w =>
    let (id, host) := w.host.draw .bucket
    let w := { w with host }
    let left := withFiles w (w.host.files.makeDirs (bucketRoot w.store.base id)).2
    let (answer, after) := createBucket header id w
    { firstWait := some left, answer := some answer, after }
  | .deleteBucket id, w => answered w (deleteBucket id w)

def backend : Backend (World Store) where
  call := call
  maxChunk w := w.store.maxChunk

end ObjectGateway.Durable
