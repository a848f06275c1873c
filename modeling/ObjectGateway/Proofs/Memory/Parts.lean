import ObjectGateway.Proofs.Memory.Serving
/-!
# Parts of a store

A part of what is stored is a store of its own. A call that names nothing outside of it goes
there as it does in the whole store.
-/
namespace ObjectGateway

open Memory (Store)

/-- The command names no identifier that is off, searches by filters that may be used, creates
objects without a parent, and lists and creates buckets of the owner only. -/
def Command.Within (off : (kind : IdKind) → Id kind → Prop) (search : List SearchFilter → Prop)
    (owner : OwnerId) : Command → Prop
  | .headObject bucket id | .getRange bucket id .. | .deleteObject bucket id =>
    ¬off .bucket bucket ∧ ¬off .object id
  | .putObject header _ => ¬off .bucket header.bucket ∧ header.parent = none
  | .searchObjects bucket filters => ¬off .bucket bucket ∧ search filters
  | .getBucket id | .deleteBucket id => ¬off .bucket id
  | .listBuckets owner' => owner' = owner
  | .putBucket header => header.owner = owner

namespace Memory

variable {part : Store → Store} {rest : Store → Prop} {w : World Store} {c : Command}

/-- A call goes in a part of the store as it does in the whole, and what is known of the rest
stays true. -/
structure Parted (part : Store → Store) (rest : Store → Prop) (w : World Store) (c : Command) :
    Prop where
  answer : (serve ⟨w.host, part w.store⟩ c).answer = (serve w c).answer
  host : (serve ⟨w.host, part w.store⟩ c).after.host = (serve w c).after.host
  part : (serve ⟨w.host, part w.store⟩ c).after.store = part (serve w c).after.store
  rest : rest (serve w c).after.store

/-- A bucket is in the part of the store in which it is looked for as in the whole. -/
theorem Parted.bucket?_isSome {id : BucketId} (h : Parted part rest w (.getBucket id)) :
    ((part w.store).bucket? id).isSome = (w.store.bucket? id).isSome := by
  have hanswer := h.answer
  simp only [serve, looked, answered] at hanswer
  cases hpart : (part w.store).bucket? id with
  | none =>
    cases hwhole : w.store.bucket? id with
    | none => rfl
    | some b => simp [hpart, hwhole] at hanswer
  | some b =>
    cases hwhole : w.store.bucket? id with
    | none => simp [hpart, hwhole] at hanswer
    | some b' => rfl

/-- What there is beside a part of a store: what is known of it, and the identifiers there. The
commands that keep to the part go there as in the whole store. -/
structure Surroundings (part : Store → Store) (search : List SearchFilter → Prop)
    (owner : OwnerId) where
  rest : Store → Prop
  off : (kind : IdKind) → Id kind → Prop
  serve : ∀ {w : World Store} {c : Command}, rest w.store → c.Within off search owner →
    Parted part rest w c

end Memory
end ObjectGateway
