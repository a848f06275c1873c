import ObjectGateway.Metadata
/-!
# Directory entries

A bucket is seen as a directory and an object as a regular file. Either goes by
its display name, or by the text of its identifier when it has none.
-/
namespace ObjectGateway

/-- A bucket seen as a directory. Only the root of the filesystem has no
identifier. -/
structure BucketEntry where
  id : Option BucketId
  name : String
  created : Int
deriving DecidableEq

/-- An object seen as a regular file. -/
structure ObjectEntry where
  bucket : BucketId
  id : ObjectId
  name : String
  filePath : Option String
  size : Nat
  created : Int
deriving DecidableEq

namespace BucketEntry

def ofMeta (now : Int) (m : BucketMeta) : BucketEntry where
  id := some m.id
  name := (m.attributes.get? Attributes.nameKey).getD m.id.text
  created := m.attributes.created now

/-- The root of the filesystem. -/
def root (now : Int) : BucketEntry := ⟨none, "/", now⟩

end BucketEntry

namespace ObjectEntry

def ofMeta (now : Int) (m : ObjectMeta) : ObjectEntry where
  bucket := m.bucket
  id := m.id
  name := (m.attributes.get? Attributes.fileNameKey).getD m.id.text
  filePath := m.attributes.get? Attributes.filePathKey
  size := m.size
  created := m.attributes.created now

end ObjectEntry

/-- Either kind of entry. -/
inductive Entry
  | bucket (b : BucketEntry)
  | object (o : ObjectEntry)
deriving DecidableEq

namespace Entry

def name : Entry → String
  | bucket b => b.name
  | object o => o.name

/-- The size of the payload; zero for directories. -/
def size : Entry → Nat
  | bucket _ => 0
  | object o => o.size

/-- The time of last change, which for write-once things is that of creation. -/
def modified : Entry → Int
  | bucket b => b.created
  | object o => o.created

def isDir : Entry → Bool
  | bucket _ => true
  | object _ => false

/-- Type bits and permission bits: everything is open to everyone. -/
def mode (e : Entry) : Nat :=
  if e.isDir then 0o040777 else 0o100777

def object? : Entry → Option ObjectEntry
  | object o => some o
  | bucket _ => none

end Entry
end ObjectGateway
