import ObjectGateway.Attributes.Decode
import ObjectGateway.Backend.Command
import ObjectGateway.Durable.Document.Search
/-!
# Metadata tables

One table of buckets and one of objects. Rows are numbered in the order of
their insertion, and a number is never used again while its table exists.
Identifiers are unique within a table, and every object belongs to an existing
bucket.
-/
namespace ObjectGateway.Durable

structure BucketRow where
  seq : Nat := 0
  id : BucketId
  owner : OwnerId
  policy : String
  acl : String
  attributes : String
deriving DecidableEq

structure ObjectRow where
  seq : Nat := 0
  id : ObjectId
  bucket : BucketId
  owner : OwnerId
  parent : Option ObjectId
  size : Int
  checksum : String
  attributes : String
deriving DecidableEq

/-- Rows in the order of their numbers, and the last number given out. -/
structure Table (ρ : Type) where
  rows : List ρ := []
  last : Nat := 0

/-- The database: its tables, as far as they exist, and whether it can be
reached. -/
structure Database where
  buckets : Option (Table BucketRow) := none
  objects : Option (Table ObjectRow) := none
  reachable : Bool := true

/-! ## Rows -/

/-- The attributes stored in a row. -/
def readAttributes (raw : String) : Except BackendError Attributes :=
  match Attributes.decode raw with
  | .ok a => .ok a
  | .error cause => .error (.corrupt (.attributes cause))

def BucketRow.info (row : BucketRow) : Except BackendError BucketMeta := do
  match Acl.parse? row.acl with
  | none => throw (.corrupt (.unknownAcl row.acl))
  | some acl => return ⟨row.id, row.owner, row.policy, acl, ← readAttributes row.attributes⟩

def ObjectRow.info (row : ObjectRow) : Except BackendError ObjectMeta := do
  match row.size with
  | .negSucc _ => throw (.corrupt (.negativeSize row.id))
  | .ofNat size => return ⟨row.id, row.bucket, row.owner, size, ← readAttributes row.attributes⟩

/-- Whether a row satisfies a filter. -/
def ObjectRow.satisfies (row : ObjectRow) : SearchFilter → Except DatabaseError Bool
  | .root => .ok row.parent.isNone
  | .attribute key value => Document.hasPair key value row.attributes

/-- Whether a row satisfies all filters, the cheap ones being tried first. -/
def ObjectRow.satisfiesAll (row : ObjectRow) (filters : List SearchFilter) :
    Except DatabaseError Bool :=
  let cheap := filters.filter (· == .root)
  let costly := filters.filter (· != .root)
  go (cheap ++ costly)
where
  go : List SearchFilter → Except DatabaseError Bool
    | [] => return true
    | f :: fs => do if ← row.satisfies f then go fs else return false

/-! ## Statements -/

namespace Database

/-- The table of buckets, if the database can be reached and has it. -/
def bucketTable (db : Database) : Except DatabaseError (Table BucketRow) :=
  if db.reachable then
    match db.buckets with
    | some t => .ok t
    | none => .error (.noSuchTable "containers")
  else .error .closed

/-- The table of objects, if the database can be reached and has it. -/
def objectTable (db : Database) : Except DatabaseError (Table ObjectRow) :=
  if db.reachable then
    match db.objects with
    | some t => .ok t
    | none => .error (.noSuchTable "objects")
  else .error .closed

/-- The table of buckets as the objects refer to it, which is by its full name. A
statement that changes objects needs it, whether there are any or not. -/
def referencedTable (db : Database) : Except DatabaseError (Table BucketRow) :=
  match db.bucketTable with
  | .error (.noSuchTable table) => .error (.noSuchTable ("main." ++ table))
  | answer => answer

/-- Create the tables that do not exist. Returns the number of statements run. -/
def migrate (db : Database) : Except DatabaseError Nat × Database :=
  if db.reachable then
    (.ok 4, { db with buckets := db.buckets.or (some {}), objects := db.objects.or (some {}) })
  else (.error .closed, db)

def findBucket (db : Database) (id : BucketId) : Except DatabaseError (Option BucketRow) :=
  return (← db.bucketTable).rows.find? fun row => row.id == id

def findObject (db : Database) (bucket : BucketId) (id : ObjectId) :
    Except DatabaseError (Option ObjectRow) :=
  return (← db.objectTable).rows.find? fun row => row.bucket == bucket && row.id == id

/-- Add a bucket row under the next number. -/
def insertBucket (db : Database) (row : BucketRow) : Except DatabaseError Database := do
  let t ← db.bucketTable
  if t.rows.any fun other => other.id == row.id then throw (.notUnique "containers.id")
  return { db with buckets := some ⟨t.rows ++ [{ row with seq := t.last + 1 }], t.last + 1⟩ }

/-- Add an object row under the next number. Its bucket must exist. -/
def insertObject (db : Database) (row : ObjectRow) : Except DatabaseError Database := do
  let t ← db.objectTable
  let parents ← db.referencedTable
  if t.rows.any fun other => other.id == row.id then throw (.notUnique "objects.id")
  if !parents.rows.any fun b => b.id == row.bucket then throw .missingReference
  return { db with objects := some ⟨t.rows ++ [{ row with seq := t.last + 1 }], t.last + 1⟩ }

/-- Delete an object row. Tells whether there was one. -/
def deleteObject (db : Database) (bucket : BucketId) (id : ObjectId) :
    Except DatabaseError (Bool × Database) := do
  let t ← db.objectTable
  let _ ← db.referencedTable
  let kept := t.rows.filter fun row => !(row.bucket == bucket && row.id == id)
  return (kept.length < t.rows.length, { db with objects := some ⟨kept, t.last⟩ })

/-- Delete a bucket row and the rows of its objects, or nothing when there is no
such bucket. Tells whether there was one. -/
def deleteBucket (db : Database) (id : BucketId) : Except DatabaseError (Bool × Database) := do
  let objects ← db.objectTable
  let buckets ← db.referencedTable
  if buckets.rows.any fun row => row.id == id then
    return (true,
      { db with
        buckets := some ⟨buckets.rows.filter fun row => row.id != id, buckets.last⟩
        objects := some ⟨objects.rows.filter fun row => row.bucket != id, objects.last⟩ })
  else return (false, db)

/-- The identifiers of a bucket's objects that satisfy all filters. One row that
cannot be searched makes the whole search fail. -/
def search (db : Database) (bucket : BucketId) (filters : List SearchFilter) :
    Except DatabaseError (List ObjectId) := do
  let rows := (← db.objectTable).rows.filter fun row => row.bucket == bucket
  let found ← rows.filterM fun row => row.satisfiesAll filters
  return found.map ObjectRow.id

def listBuckets (db : Database) (owner : OwnerId) : Except DatabaseError (List BucketId) :=
  return ((← db.bucketTable).rows.filter fun row => row.owner == owner).map BucketRow.id

/-- Drop the table of objects. -/
def dropObjects (db : Database) : Except DatabaseError Database := do
  let _ ← db.objectTable
  return { db with objects := none }

/-- Drop the table of buckets. The rows of objects, which belong to buckets, go
with it. -/
def dropBuckets (db : Database) : Except DatabaseError Database := do
  let _ ← db.bucketTable
  return { db with
    buckets := none
    objects := db.objects.map fun t => { t with rows := [] } }

end Database
end ObjectGateway.Durable
