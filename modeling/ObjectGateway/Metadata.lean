import ObjectGateway.Attributes
import ObjectGateway.Identifier
/-!
# Metadata

What a store is told about a bucket or an object when it is created, and what
it reports about them afterwards.
-/
namespace ObjectGateway

/-- The placement policy of buckets for which none is chosen. -/
def defaultPolicy : String := "REP 1"

/-- Who may use a bucket. -/
inductive Acl
  | restricted
  | publicRead
  | publicReadWrite
deriving DecidableEq, Repr

namespace Acl

instance : Inhabited Acl := ⟨restricted⟩

def text : Acl → String
  | restricted => "private"
  | publicRead => "public-read"
  | publicReadWrite => "public-read-write"

def parse? (raw : String) : Option Acl :=
  [restricted, publicRead, publicReadWrite].find? fun acl => acl.text == raw

theorem parse?_text (acl : Acl) : parse? acl.text = some acl := by
  cases acl <;> rfl

end Acl

/-- An object about to be stored. An object with a parent is auxiliary and
appears in no listing. -/
structure ObjectHeader where
  bucket : BucketId
  owner : OwnerId
  attributes : Attributes := {}
  parent : Option ObjectId := none
deriving DecidableEq

/-- A stored object, as reported by the store. -/
structure ObjectMeta where
  id : ObjectId
  bucket : BucketId
  owner : OwnerId
  size : Nat
  attributes : Attributes
deriving DecidableEq

/-- A bucket about to be created. -/
structure BucketHeader where
  owner : OwnerId
  policy : String := defaultPolicy
  acl : Acl := .restricted
  attributes : Attributes := {}
deriving DecidableEq

/-- A bucket, as reported by the store. -/
structure BucketMeta where
  id : BucketId
  owner : OwnerId
  policy : String
  acl : Acl
  attributes : Attributes
deriving DecidableEq

end ObjectGateway
