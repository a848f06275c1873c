import ObjectGateway.Backend.Program
/-!
# Gateway settings
-/
namespace ObjectGateway

/-- How a gateway behaves. -/
structure Settings where
  /-- The identity whose buckets are listed and that owns what is created. -/
  owner : OwnerId := Id.nil
  /-- Refuse every mutating method. -/
  readOnly : Bool := false
  /-- The placement policy of new buckets. -/
  policy : String := defaultPolicy
  /-- Refuse to create a second entry of one name. -/
  rejectDuplicates : Bool := false
  /-- Where uploads are staged; the directory for temporary files when unset. -/
  stagingDir : Option String := none
deriving DecidableEq

/-- A gateway at work: its settings, the largest upload chunk of its backend and
the current time in Unix seconds. -/
structure Gateway where
  settings : Settings := {}
  maxChunk : Nat
  now : Int
deriving DecidableEq

namespace Gateway

/-- The number of the owner's buckets, as a cheap sign that the backend answers. -/
def probe (g : Gateway) : FsProgram Nat := do
  let ids ← FsProgram.call "/" (.listBuckets g.settings.owner)
  return ids.length

end Gateway
end ObjectGateway
