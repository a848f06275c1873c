import ObjectGateway.Gateway.Listing
import ObjectGateway.Path
/-!
# Resolution of paths

A segment that reads as an identifier is fetched by it. Any other segment is a
display name: a bucket is then looked for among the owner's listed buckets, an
object by a search in its bucket.
-/
namespace ObjectGateway.Gateway

def resolveBucket (g : Gateway) (segment : String) : FsProgram BucketEntry := do
  let path := "/" ++ segment
  match (Id.parse? segment : Option BucketId) with
  | some id => g.fetchBucket id path
  | none =>
    let buckets ← g.listBuckets
    match buckets.find? fun b => b.name == segment with
    | some b => return b
    | none => throw (.notFound path)

/-- The first top-level object that is stored under a file name. -/
def findObject (g : Gateway) (bucket : BucketEntry) (name path : String) :
    FsProgram (Option ObjectEntry) :=
  match bucket.id with
  | none => return none
  | some id => do
    let filters := [.root, .attribute Attributes.fileNameKey name]
    let ids ← FsProgram.call path (.searchObjects id filters)
    match ids with
    | [] => return none
    | first :: _ => some <$> g.fetchObject id first path

def resolveObject (g : Gateway) (bucket : BucketEntry) (segment path : String) :
    FsProgram ObjectEntry :=
  match bucket.id with
  | none => throw (.notFound path)
  | some bucketId =>
    match (Id.parse? segment : Option ObjectId) with
    | some id => g.fetchObject bucketId id path
    | none => do
      match ← g.findObject bucket segment path with
      | some o => return o
      | none => throw (.notFound path)

/-- The entry a path names. -/
def stat (g : Gateway) (path : FsPath) : FsProgram Entry :=
  match path with
  | .root => return .bucket (.root g.now)
  | .bucket b => .bucket <$> g.resolveBucket b
  | .object b o => do
    let bucket ← g.resolveBucket b
    .object <$> g.resolveObject bucket o path.text

/-- The entries of a directory. -/
def list (g : Gateway) (path : FsPath) : FsProgram (List Entry) :=
  match path with
  | .root => List.map Entry.bucket <$> g.listBuckets
  | .bucket b => do
    let bucket ← g.resolveBucket b
    match bucket.id with
    | none => throw (.notFound path.text)
    | some id => List.map Entry.object <$> g.listObjects id path.text
  | .object .. => throw (.notADirectory path.text)

end ObjectGateway.Gateway
