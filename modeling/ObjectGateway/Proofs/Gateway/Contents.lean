import ObjectGateway.Proofs.Attributes
import ObjectGateway.Proofs.Gateway.Listing
import ObjectGateway.Proofs.Gateway.Session
/-!
# What gateways make of a store

All that gateways create is labelled with a display name. A segment is resolved to the
bucket or the object of that identifier, or else to the first one of that name; a bucket
that was once found under a segment is found there as long as it exists.
-/
namespace ObjectGateway

namespace Memory

/-! ## Display names -/

def StoredBucket.name (b : StoredBucket) : String :=
  (b.info.attributes.get? Attributes.nameKey).getD b.info.id.text

def StoredObject.name (o : StoredObject) : String :=
  (o.info.attributes.get? Attributes.fileNameKey).getD o.info.id.text

/-- Whether a name is among the file names that an object was stored with. -/
def StoredObject.bears (o : StoredObject) (n : String) : Bool :=
  o.satisfies (.attribute Attributes.fileNameKey n)

def StoredBucket.roots (b : StoredBucket) : List StoredObject :=
  b.objects.filter fun o => o.parent.isNone

/-- The bucket that a segment is resolved to. -/
def Store.resolve (m : Store) (owner : OwnerId) (segment : String) : Option StoredBucket :=
  match (Id.parse? segment : Option BucketId) with
  | some id => m.bucket? id
  | none => (m.buckets.filter fun b => b.info.owner == owner).find? fun b => b.name == segment

/-- The object of a bucket that a segment is resolved to. -/
def StoredBucket.resolve (b : StoredBucket) (segment : String) : Option StoredObject :=
  match (Id.parse? segment : Option ObjectId) with
  | some id => b.find? id
  | none => b.roots.find? fun o => o.name == segment

/-- Buckets and objects are labelled the way gateways do it, and no object is auxiliary. -/
structure Store.Labelled (m : Store) : Prop where
  buckets : ∀ b ∈ m.buckets, ∃ name now,
    b.info.attributes = .named Attributes.nameKey name now
  objects : ∀ b ∈ m.buckets, ∀ o ∈ b.objects, o.parent = none ∧ ∃ name now,
    o.info.attributes = .named Attributes.fileNameKey name now

variable {m : Store} {b : StoredBucket} {o : StoredObject} {settings : Settings}

theorem labelled_empty : Store.Labelled {} := by
  constructor <;> simp

/-- The name of an object is the only one that it was stored with. -/
theorem Store.Labelled.bears_eq (h : m.Labelled) (hb : b ∈ m.buckets) (ho : o ∈ b.objects)
    (n : String) : o.bears n = (o.name == n) := by
  obtain ⟨-, name, now, hattributes⟩ := h.objects b hb o ho
  rw [Bool.eq_iff_iff, beq_iff_eq]
  simp [StoredObject.name, StoredObject.bears, StoredObject.satisfies, hattributes,
    Attributes.get?_named Attributes.fileNameKey_ne,
    Attributes.mem_pairs_named Attributes.fileNameKey_ne, eq_comm]

theorem Store.Labelled.onObjects (h : m.Labelled) {bucket : BucketId}
    {f : List StoredObject → List StoredObject}
    (hf : ∀ b ∈ m.buckets, b.info.id = bucket → ∀ o ∈ f b.objects, o.parent = none ∧
      ∃ name now, o.info.attributes = .named Attributes.fileNameKey name now) :
    (m.onObjects bucket f).Labelled := by
  constructor
  · intro b hb
    obtain ⟨b₀, hb₀, rfl⟩ := Store.mem_onObjects.mp hb
    have hlabel := h.buckets b₀ hb₀
    split <;> exact hlabel
  · intro b hb
    obtain ⟨b₀, hb₀, rfl⟩ := Store.mem_onObjects.mp hb
    split
    · exact hf b₀ hb₀ ‹_›
    · exact h.objects b₀ hb₀

theorem Store.Labelled.addObject (h : m.Labelled) (hroot : o.parent = none)
    (hlabel : ∃ name now, o.info.attributes = .named Attributes.fileNameKey name now) :
    (m.addObject o).Labelled := by
  refine h.onObjects ?_
  intro b hb _ o' ho
  obtain ho | rfl := List.mem_append.mp ho |>.imp_right List.mem_singleton.mp
  · exact h.objects b hb o' ho
  · exact ⟨hroot, hlabel⟩

/-- Whatever gateways do, the store stays labelled. -/
theorem keeps_labelled (settings : Settings) :
    Keeps (Session.Given settings) fun _ m => m.Labelled where
  later _ h := h
  serve {w c} hgiven _ _ h := by
    obtain ⟨g, -, hgives⟩ := hgiven
    have hserved := served w c
    generalize (serve w c).after = left at hserved
    -- Only what is created has to be looked at, and gateways label what they create.
    cases hserved with
    | unchanged => exact h
    | @stored header payload chunks =>
      obtain ⟨bucket, name, rfl⟩ := hgives
      have hadded := h.addObject (o := .ofHeader (w.host.draw .object).1
        { bucket, owner := g.settings.owner,
          attributes := .named Attributes.fileNameKey name g.now } chunks.flatten)
        rfl ⟨name, g.now, rfl⟩
      exact ⟨hadded.buckets, hadded.objects⟩
    | deletedObject bucket id =>
      exact h.onObjects fun b hb _ o ho => h.objects b hb o (List.mem_of_mem_filter ho)
    | made header =>
      constructor
      · intro b hb
        obtain hb | rfl := List.mem_append.mp hb |>.imp_right List.mem_singleton.mp
        · exact h.buckets b hb
        · obtain ⟨name, rfl⟩ := hgives
          exact ⟨name, g.now, rfl⟩
      · intro b hb
        obtain hb | rfl := List.mem_append.mp hb |>.imp_right List.mem_singleton.mp
        · exact h.objects b hb
        · simp
    | deletedBucket id =>
      exact ⟨fun b hb => h.buckets b (List.mem_of_mem_filter hb),
        fun b hb => h.objects b (List.mem_of_mem_filter hb)⟩

/-! ## Resolution after a change -/

variable {owner : OwnerId} {segment : String} {bucket : BucketId}

theorem Store.mem_of_resolve (h : m.resolve owner segment = some b) : b ∈ m.buckets := by
  unfold resolve at h
  split at h
  · exact (bucket?_eq_some h).1
  · exact List.mem_of_mem_filter (List.mem_of_find?_eq_some h)

theorem StoredBucket.mem_of_resolve (h : b.resolve segment = some o) : o ∈ b.objects := by
  unfold resolve at h
  split at h
  · exact (find?_eq_some h).1
  · exact List.mem_of_mem_filter (List.mem_of_find?_eq_some h)

/-- Changes to the objects of a bucket do not disturb how buckets are found. -/
theorem Store.resolve_onObjects (m : Store) (bucket : BucketId)
    (f : List StoredObject → List StoredObject) (owner : OwnerId) (segment : String) :
    (m.onObjects bucket f).resolve owner segment =
      (m.resolve owner segment).map fun b =>
        if b.info.id = bucket then b.onObjects f else b := by
  unfold resolve
  split
  · rename_i id _
    rw [bucket?_onObjects]
    cases hfind : m.bucket? id with
    | none => split <;> rfl
    | some b =>
      obtain ⟨-, rfl⟩ := bucket?_eq_some hfind
      split <;> simp [*]
  · have hinfo : ∀ b : StoredBucket,
        (if b.info.id = bucket then b.onObjects f else b).info = b.info := by
      intro b
      split <;> rfl
    have hbuckets : (m.onObjects bucket f).buckets =
        m.buckets.map fun b => if b.info.id = bucket then b.onObjects f else b := rfl
    simp only [hbuckets, List.filter_map, List.find?_map, Function.comp_def, StoredBucket.name,
      hinfo]

/-- A bucket more does not hide those that were there. -/
theorem Store.resolve_addBucket (h : m.resolve owner segment = some b) (b' : StoredBucket) :
    (m.addBucket b').resolve owner segment = some b := by
  unfold resolve at h ⊢
  split at h
  · rw [bucket?_addBucket, h]
    rfl
  · rw [addBucket, List.filter_append, List.find?_append, h]
    rfl

/-- A bucket less does not hide the others. -/
theorem Store.resolve_removeBucket (h : m.resolve owner segment = some b)
    (hb : b.info.id ≠ bucket) : (m.removeBucket bucket).resolve owner segment = some b := by
  unfold resolve at h ⊢
  split at h
  · rw [bucket?_removeBucket, if_neg ?_, h]
    obtain ⟨-, rfl⟩ := bucket?_eq_some h
    exact hb
  · rw [removeBucket, List.filter_filter, List.filter_congr (fun _ _ => Bool.and_comm _ _),
      ← List.filter_filter]
    exact find?_filter_of_find? h (by simpa using hb)

/-- As long as the bucket of this identifier exists, the segment is resolved to it. -/
structure Store.Leads (owner : OwnerId) (segment : String) (bucket : BucketId) (ids : IdSupply)
    (m : Store) : Prop where
  issued : ids.Issued bucket
  resolved : ∀ b, m.bucket? bucket = some b → m.resolve owner segment = some b

theorem keeps_leads (A : Command → Prop) (owner : OwnerId) (segment : String) (bucket : BucketId) :
    Keeps A (Store.Leads owner segment bucket) where
  later hext h := ⟨h.issued.of_extends hext, h.resolved⟩
  serve {w c} _ _ hd h := by
    have hext := serve_extends w c
    have hserved := served w c
    generalize (serve w c).after = left at hserved hext hd ⊢
    refine ⟨h.issued.of_extends hext, fun b hb => ?_⟩
    -- Changes of objects leave each bucket where it is found.
    have honObjects : ∀ {bucket' : BucketId} {f : List StoredObject → List StoredObject},
        (w.store.onObjects bucket' f).bucket? bucket = some b →
        (w.store.onObjects bucket' f).resolve owner segment = some b := by
      intro bucket' f hb
      rw [Store.bucket?_onObjects] at hb
      cases hold : w.store.bucket? bucket with
      | none => simp [hold] at hb
      | some b₀ =>
        obtain ⟨-, hid⟩ := Store.bucket?_eq_some hold
        rw [Store.resolve_onObjects, h.resolved b₀ hold, ← hb, hold]
        by_cases hsame : bucket = bucket' <;> simp [hid, hsame]
    cases hserved with
    | unchanged => exact h.resolved b hb
    | @stored header => exact @honObjects header.bucket (· ++ [_]) hb
    | deletedObject => exact honObjects hb
    | made header =>
      -- The identifier has been issued, so it is not that of the new bucket.
      have hnew : (w.host.draw .bucket).1 ≠ bucket := (h.issued.ne_draw hd).symm
      simp only [Store.bucket?_addBucket, hnew, if_false, Option.or_none] at hb
      exact Store.resolve_addBucket (h.resolved b hb) _
    | deletedBucket id =>
      rw [Store.bucket?_removeBucket] at hb
      split at hb
      · cases hb
      · rename_i hother
        obtain ⟨-, hid⟩ := Store.bucket?_eq_some hb
        exact Store.resolve_removeBucket (h.resolved b hb) (hid ▸ hother)

end Memory
end ObjectGateway
