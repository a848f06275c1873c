import ObjectGateway.Bytes
import ObjectGateway.Digest.Md5
import ObjectGateway.Host.FileTree
import ObjectGateway.Identifier
/-!
# Where payloads lie

Below the base directory every bucket has a directory of its own, named by the
bucket's identifier. An object's payload lies two directories further down,
which are named by the first two bytes of a digest of both identifiers, under
the identifier of the object.
-/
namespace ObjectGateway.Durable

/-- The directory of a bucket. -/
def bucketRoot (base : Location) (bucket : BucketId) : Location :=
  base ++ [bucket.text]

/-- The names of the two directories that an object is filed under. -/
def shards (bucket : BucketId) (id : ObjectId) : List String :=
  ((Md5.digest (Bytes.ofText (bucket.text ++ "/" ++ id.text))).take 2).map fun byte =>
    String.ofList (Hex.ofNat 2 byte.toNat)

/-- The directory that holds an object's payload. -/
def shardDir (base : Location) (bucket : BucketId) (id : ObjectId) : Location :=
  bucketRoot base bucket ++ shards bucket id

/-- The file of an object's payload. -/
def payloadFile (base : Location) (bucket : BucketId) (id : ObjectId) : Location :=
  shardDir base bucket id ++ [id.text]

/-- The file that a payload is written to while it is uploaded. -/
def uploadFile (base : Location) (bucket : BucketId) (id : ObjectId) : Location :=
  shardDir base bucket id ++ [".tmp-" ++ id.text]

end ObjectGateway.Durable
