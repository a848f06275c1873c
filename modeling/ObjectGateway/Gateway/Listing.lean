import ObjectGateway.Entry
import ObjectGateway.Gateway.Settings
/-!
# Listings

A directory is read by one enumeration and one fetch of metadata for each
entry, in order. Of entries with the same display name only the first one
enumerated is shown. A listing is handed out in pages.
-/
namespace ObjectGateway

namespace Listing

variable {α : Type}

/-- The items whose name differs from those of `seen` and of every earlier item. -/
def distinctFrom (name : α → String) (seen : List String) : List α → List α
  | [] => []
  | x :: xs =>
    if seen.contains (name x) then distinctFrom name seen xs
    else x :: distinctFrom name (name x :: seen) xs

/-- The items whose name differs from that of every earlier item. -/
def distinct (name : α → String) (items : List α) : List α :=
  distinctFrom name [] items

/-- The first failure of a sequence, or its distinct items when none fails. -/
def firstSeen (name : α → String) (items : List (Except FsError α)) :
    Except FsError (List α) :=
  (items.mapM id).map (distinct name)

/-- At most `max` items from `offset` on, and whether the end was reached: it is
when the page is past the end or shorter than asked for. -/
def page (items : List α) (offset max : Nat) : List α × Bool :=
  if items.length ≤ offset then ([], true)
  else
    let taken := (items.drop offset).take max
    (taken, taken.length < max)

end Listing

namespace Gateway

def fetchBucket (g : Gateway) (id : BucketId) (path : String) : FsProgram BucketEntry := do
  let info ← FsProgram.call path (.getBucket id)
  return .ofMeta g.now info

def fetchObject (g : Gateway) (bucket : BucketId) (id : ObjectId) (path : String) :
    FsProgram ObjectEntry := do
  let info ← FsProgram.call path (.headObject bucket id)
  return .ofMeta g.now info

/-- The owner's buckets, one for each display name. -/
def listBuckets (g : Gateway) : FsProgram (List BucketEntry) := do
  let ids ← FsProgram.call "/" (.listBuckets g.settings.owner)
  let entries ← ids.mapM fun id => g.fetchBucket id ("/" ++ id.text)
  return Listing.distinct BucketEntry.name entries

/-- The top-level objects of a bucket, one for each display name. -/
def listObjects (g : Gateway) (bucket : BucketId) (path : String) :
    FsProgram (List ObjectEntry) := do
  let ids ← FsProgram.call path (.searchObjects bucket [.root])
  let entries ← ids.mapM fun id => g.fetchObject bucket id (path ++ "/" ++ id.text)
  return Listing.distinct ObjectEntry.name entries

end Gateway
end ObjectGateway
