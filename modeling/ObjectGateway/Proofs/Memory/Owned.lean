import Mathlib.Data.List.Find
import ObjectGateway.Proofs.Memory.Parts
/-!
# One owner's part of a store

The buckets of one owner, in their order, are a store of their own. A call that names no
bucket of anybody else goes there as it does in the whole store, and leaves the buckets of
the others as they are.
-/
namespace ObjectGateway

open Memory (Store StoredBucket StoredObject)

namespace Memory

/-- None of the buckets has this identifier. -/
def Spared (foreign : List StoredBucket) (bucket : BucketId) : Prop :=
  ∀ b ∈ foreign, b.info.id ≠ bucket

-- ---------------------------------------------------------------------------
-- The part and the rest
-- ---------------------------------------------------------------------------

def Store.ownedBy (m : Store) (owner : OwnerId) : Store :=
  { m with buckets := m.buckets.filter fun b => b.info.owner == owner }

def Store.others (m : Store) (owner : OwnerId) : List StoredBucket :=
  m.buckets.filter fun b => b.info.owner != owner

variable {m : Store} {owner : OwnerId} {bucket : BucketId}

theorem Store.owner_of_spared (h : Spared (m.others owner) bucket) {b : StoredBucket}
    (hb : b ∈ m.buckets) (hid : b.info.id = bucket) : b.info.owner = owner := by
  by_contra hother
  exact h b (List.mem_filter.mpr ⟨hb, by simpa using hother⟩) hid

theorem Store.Sound.ownedBy {ids : IdSupply} (h : m.Sound ids) (owner : OwnerId) :
    (m.ownedBy owner).Sound ids where
  distinct := (List.filter_sublist.map _).nodup h.distinct
  issued b hb := h.issued b (List.mem_of_mem_filter hb)
  inside b hb := h.inside b (List.mem_of_mem_filter hb)

theorem Store.Healthy.ownedBy (h : m.Healthy) (owner : OwnerId) : (m.ownedBy owner).Healthy := h

/-- No bucket of an owner has the identifier of one of somebody else's. -/
theorem Store.Sound.spared {ids : IdSupply} (h : m.Sound ids) {b : StoredBucket}
    (hb : b ∈ (m.ownedBy owner).buckets) : Spared (m.others owner) b.info.id := by
  rintro b' hb' hid
  obtain ⟨hmem, howner⟩ := List.mem_filter.mp hb
  obtain ⟨hmem', howner'⟩ := List.mem_filter.mp hb'
  obtain rfl := List.inj_on_of_nodup_map h.distinct hmem' hmem hid
  exact bne_iff_ne.mp howner' (beq_iff_eq.mp howner)

theorem Store.bucket?_ownedBy (h : Spared (m.others owner) bucket) :
    (m.ownedBy owner).bucket? bucket = m.bucket? bucket := by
  rw [Store.bucket?, Store.ownedBy, List.find?_filter]
  refine List.find?_congr fun b hb => ?_
  by_cases hid : b.info.id = bucket
  · simp [hid, owner_of_spared h hb hid]
  · simp [hid]

theorem Store.object?_ownedBy (h : Spared (m.others owner) bucket) (id : ObjectId) :
    (m.ownedBy owner).object? bucket id = m.object? bucket id := by
  rw [Store.object?, Store.object?, bucket?_ownedBy h]

-- ---------------------------------------------------------------------------
-- Changes
-- ---------------------------------------------------------------------------

/-- Other objects in a bucket do not change whose it is. -/
theorem filter_onObjects (m : Store) (bucket : BucketId)
    (f : List StoredObject → List StoredObject) (p : OwnerId → Bool) :
    (m.onObjects bucket f).buckets.filter (fun b => p b.info.owner) =
      (m.buckets.filter fun b => p b.info.owner).map fun b =>
        if b.info.id = bucket then { b with objects := f b.objects } else b := by
  rw [Store.onObjects, List.filter_map]
  congr 2
  funext b
  by_cases hid : b.info.id = bucket <;> simp [hid]

theorem Store.ownedBy_onObjects (m : Store) (bucket : BucketId)
    (f : List StoredObject → List StoredObject) (owner : OwnerId) :
    (m.onObjects bucket f).ownedBy owner = (m.ownedBy owner).onObjects bucket f :=
  congrArg (fun buckets => { m with buckets })
    (filter_onObjects m bucket f fun owner' => owner' == owner)

theorem Store.others_onObjects (h : Spared (m.others owner) bucket)
    (f : List StoredObject → List StoredObject) :
    (m.onObjects bucket f).others owner = m.others owner := by
  refine (filter_onObjects m bucket f fun owner' => owner' != owner).trans ?_
  refine (List.map_congr_left fun b hb => ?_).trans (List.map_id _)
  exact if_neg (h b hb)

theorem Store.ownedBy_removeBucket (m : Store) (bucket : BucketId) (owner : OwnerId) :
    (m.removeBucket bucket).ownedBy owner = (m.ownedBy owner).removeBucket bucket := by
  simp only [ownedBy, removeBucket, List.filter_filter, Bool.and_comm]

theorem Store.others_removeBucket (h : Spared (m.others owner) bucket) :
    (m.removeBucket bucket).others owner = m.others owner := by
  simp only [others, removeBucket, List.filter_filter]
  refine List.filter_congr fun b hb => ?_
  by_cases hid : b.info.id = bucket
  · simp [owner_of_spared h hb hid]
  · simp [hid]

theorem Store.ownedBy_addBucket (m : Store) {b : StoredBucket} (hb : b.info.owner = owner) :
    (m.addBucket b).ownedBy owner = (m.ownedBy owner).addBucket b := by
  simp [Store.ownedBy, Store.addBucket, hb]

theorem Store.others_addBucket (m : Store) {b : StoredBucket} (hb : b.info.owner = owner) :
    (m.addBucket b).others owner = m.others owner := by
  simp [Store.others, Store.addBucket, hb]

-- ---------------------------------------------------------------------------
-- Calls
-- ---------------------------------------------------------------------------

variable {foreign : List StoredBucket} {search : List SearchFilter → Prop}

def foreignIds (foreign : List StoredBucket) : (kind : IdKind) → Id kind → Prop
  | .bucket, bucket => ¬Spared foreign bucket
  | _, _ => False

theorem Store.Sound.issued_of_foreign {ids : IdSupply} (h : m.Sound ids) {kind : IdKind}
    {id : Id kind} (hid : foreignIds (m.others owner) kind id) : ids.Issued id := by
  cases kind with
  | bucket =>
    obtain ⟨b, hb, hplace⟩ : ∃ b ∈ m.others owner, b.info.id = id := by
      simpa [foreignIds, Spared] using hid
    exact hplace ▸ h.issued b (List.mem_of_mem_filter hb)
  | _ => exact hid.elim

/-- Commands that name no bucket of anybody else go in one owner's part of the store as in the
whole, and the buckets of the others stay as they are. -/
theorem serve_ownedBy {w : World Store} {c : Command} (hothers : w.store.others owner = foreign)
    (hc : c.Within (foreignIds foreign) search owner) :
    Parted (·.ownedBy owner) (·.others owner = foreign) w c := by
  have hspared : ∀ {bucket}, ¬foreignIds foreign .bucket bucket →
      Spared (w.store.others owner) bucket := fun h => hothers ▸ not_not.mp h
  cases c with
  | headObject bucket id =>
    have h := hspared hc.1
    refine ⟨?_, rfl, rfl, hothers⟩
    simp only [serve, looked, answered, Store.head, Store.object?_ownedBy h]
    rfl
  | getRange bucket id offset length =>
    have h := hspared hc.1
    refine ⟨?_, rfl, rfl, hothers⟩
    simp only [serve, looked, answered, Store.range, Store.object?_ownedBy h]
  | searchObjects bucket filters =>
    have h := hspared hc.1
    refine ⟨?_, rfl, rfl, hothers⟩
    simp only [serve, looked, answered, Store.search, Store.bucket?_ownedBy h]
  | getBucket bucket =>
    have h := hspared hc
    refine ⟨?_, rfl, rfl, hothers⟩
    simp only [serve, looked, answered, Store.bucket?_ownedBy h]
  | listBuckets owner' =>
    obtain rfl : owner' = owner := hc
    refine ⟨?_, rfl, rfl, hothers⟩
    simp only [serve, looked, answered, Store.ownedBy, List.filter_filter, Bool.and_self]
  | putBucket header =>
    have hnew : header.owner = owner := hc
    exact ⟨rfl, rfl, (w.store.ownedBy_addBucket hnew).symm,
      (w.store.others_addBucket hnew).trans hothers⟩
  | deleteBucket bucket =>
    have h := hspared hc
    have hsame := Store.bucket?_ownedBy h
    cases hbucket : w.store.bucket? bucket with
    | none =>
      constructor <;> simp [serve, hsame, hbucket, looked, answered, hothers]
    | some b =>
      constructor <;> simp [serve, hsame, hbucket, answered, Store.ownedBy_removeBucket,
        Store.others_removeBucket h, hothers]
  | deleteObject bucket id =>
    have h := hspared hc.1
    have hsame := Store.object?_ownedBy h id
    cases hobject : w.store.object? bucket id with
    | none =>
      constructor <;> simp [serve, hsame, hobject, looked, answered, hothers]
    | some o =>
      constructor <;> simp [serve, hsame, hobject, answered, Store.removeObject,
        Store.ownedBy_onObjects, Store.others_onObjects h, hothers]
  | putObject header payload =>
    have h := hspared hc.1
    have hsame := Store.bucket?_ownedBy h
    cases hdrain : payload.drain with
    | failed cause => constructor <;> simp [serve, hdrain, looked, answered, hothers]
    | waiting chunks => constructor <;> simp [serve, hdrain, waiting, hothers]
    | complete chunks =>
      cases hbucket : w.store.bucket? header.bucket with
      | none => constructor <;> simp [serve, hdrain, answered, upload, hsame, hbucket, hothers]
      | some b =>
        have howned := fun o : StoredObject =>
          w.store.ownedBy_onObjects header.bucket (· ++ [o]) owner
        have hkept := fun o : StoredObject => Store.others_onObjects h (· ++ [o])
        refine ⟨?_, ?_, ?_, ?_⟩ <;> simp only [serve, hdrain, answered, upload, hsame, hbucket]
        · exact congrArg (fun s : Store => { s with lastUpload := chunks.map List.length })
            (howned _).symm
        · exact (hkept _).trans hothers

/-- What there is beside the buckets of one owner: those of others, which stay as they are. -/
def foreignSurroundings (owner : OwnerId) (foreign : List StoredBucket)
    (search : List SearchFilter → Prop) : Surroundings (·.ownedBy owner) search owner where
  rest m := m.others owner = foreign
  off := foreignIds foreign
  serve := serve_ownedBy

end Memory
end ObjectGateway
