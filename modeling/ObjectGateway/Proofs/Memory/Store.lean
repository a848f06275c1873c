import ObjectGateway.Memory.Store
import ObjectGateway.Proofs.Identifier
import ObjectGateway.Proofs.Lists
/-!
# The store in memory, call by call

What is found in the store after each change, and what holds of its content
whatever calls it has served: buckets and the objects of a bucket have identifiers of
their own, all of them handed out by the store.
-/
namespace ObjectGateway.Memory

variable {m : Store} {b : StoredBucket} {o : StoredObject} {bucket bucket' : BucketId} {id id' : ObjectId}

/-! ## Lookups -/

theorem Store.bucket?_eq_some (h : m.bucket? bucket = some b) :
    b ∈ m.buckets ∧ b.info.id = bucket :=
  ⟨List.mem_of_find?_eq_some h, by simpa using List.find?_some h⟩

theorem StoredBucket.find?_eq_some (h : b.find? id = some o) : o ∈ b.objects ∧ o.info.id = id :=
  ⟨List.mem_of_find?_eq_some h, by simpa using List.find?_some h⟩

theorem Store.object?_eq_some (h : m.object? bucket id = some o) :
    ∃ b, m.bucket? bucket = some b ∧ b.find? id = some o :=
  Option.bind_eq_some_iff.mp h

theorem Store.object?_of_bucket? (h : m.bucket? bucket = some b) :
    m.object? bucket id = b.find? id := by
  simp [object?, h]

theorem Store.bucket?_isSome_iff :
    (m.bucket? bucket).isSome ↔ ∃ b ∈ m.buckets, b.info.id = bucket := by
  simp [bucket?, List.find?_isSome]

/-! ## Buckets after a change -/

theorem Store.bucket?_addBucket (m : Store) (b : StoredBucket) (bucket : BucketId) :
    (m.addBucket b).bucket? bucket =
      (m.bucket? bucket).or (if b.info.id = bucket then some b else none) := by
  simp only [addBucket, bucket?, List.find?_append]
  by_cases h : b.info.id = bucket <;> simp [h]

theorem Store.bucket?_removeBucket (m : Store) (bucket bucket' : BucketId) :
    (m.removeBucket bucket).bucket? bucket' =
      if bucket' = bucket then none else m.bucket? bucket' := by
  simp only [removeBucket, bucket?, List.find?_filter]
  by_cases h : bucket' = bucket
  · rw [if_pos h, List.find?_eq_none]
    intro b _
    by_cases hb : b.info.id = bucket' <;> simp_all
  · rw [if_neg h]
    congr 1
    funext b
    by_cases hb : b.info.id = bucket' <;> simp [hb, h]

def StoredBucket.onObjects (b : StoredBucket) (f : List StoredObject → List StoredObject) :
    StoredBucket :=
  { b with objects := f b.objects }

@[simp] theorem StoredBucket.info_onObjects (b : StoredBucket)
    (f : List StoredObject → List StoredObject) : (b.onObjects f).info = b.info := rfl

/-- Other objects in one bucket leave the buckets what they are. -/
theorem Store.map_info_onObjects (m : Store) (bucket : BucketId)
    (f : List StoredObject → List StoredObject) :
    (m.onObjects bucket f).buckets.map StoredBucket.info = m.buckets.map StoredBucket.info := by
  simp only [onObjects, List.map_map]
  congr 1
  funext b
  by_cases h : b.info.id = bucket <;> simp [h]

/-- A change that changes nothing. -/
theorem Store.onObjects_self (m : Store) (bucket : BucketId) :
    m.onObjects bucket (fun objects => objects) = m := by
  simp [onObjects]

/-- Two changes of the objects of one bucket are one. -/
theorem Store.onObjects_onObjects (m : Store) (bucket : BucketId)
    (f g : List StoredObject → List StoredObject) :
    (m.onObjects bucket f).onObjects bucket g = m.onObjects bucket (g ∘ f) := by
  simp only [onObjects, List.map_map]
  congr 2
  funext b
  by_cases h : b.info.id = bucket <;> simp [h]

/-- Only what becomes of the objects of the bucket matters. -/
theorem Store.onObjects_congr {f g : List StoredObject → List StoredObject}
    (h : ∀ b ∈ m.buckets, b.info.id = bucket → f b.objects = g b.objects) :
    m.onObjects bucket f = m.onObjects bucket g := by
  simp only [onObjects]
  congr 1
  refine List.map_congr_left fun b hb => ?_
  split
  · rw [h b hb ‹_›]
  · rfl

theorem Store.mem_onObjects {f : List StoredObject → List StoredObject} :
    b ∈ (m.onObjects bucket f).buckets ↔
      ∃ b₀ ∈ m.buckets, b = if b₀.info.id = bucket then b₀.onObjects f else b₀ := by
  simp only [onObjects, List.mem_map, StoredBucket.onObjects, eq_comm]

theorem Store.exists_onObjects {f : List StoredObject → List StoredObject} :
    (∃ b ∈ (m.onObjects bucket f).buckets, b.info.id = bucket') ↔
      ∃ b ∈ m.buckets, b.info.id = bucket' := by
  have hids := congrArg (fun infos => bucket' ∈ infos.map BucketMeta.id)
    (m.map_info_onObjects bucket f)
  simpa using hids

theorem Store.bucket?_onObjects (m : Store) (bucket bucket' : BucketId)
    (f : List StoredObject → List StoredObject) :
    (m.onObjects bucket f).bucket? bucket' =
      if bucket' = bucket then (m.bucket? bucket').map (·.onObjects f) else m.bucket? bucket' := by
  simp only [bucket?, onObjects, List.find?_map]
  have hsame : ((fun b : StoredBucket => b.info.id == bucket') ∘ fun b =>
      if b.info.id = bucket then { b with objects := f b.objects } else b) =
      fun b => b.info.id == bucket' := by
    funext b
    by_cases hb : b.info.id = bucket <;> simp [hb]
  rw [hsame]
  cases hfind : m.buckets.find? fun b => b.info.id == bucket' with
  | none => simp
  | some b =>
    have hb : b.info.id = bucket' := by simpa using List.find?_some hfind
    by_cases h : bucket' = bucket <;> simp [hb, h, StoredBucket.onObjects]

theorem Store.bucket?_addObject (m : Store) (o : StoredObject) (bucket : BucketId) :
    (m.addObject o).bucket? bucket =
      if bucket = o.info.bucket then (m.bucket? bucket).map (·.onObjects (· ++ [o]))
      else m.bucket? bucket :=
  m.bucket?_onObjects _ _ _

/-! ## Objects after a change -/

theorem Store.object?_addObject (m : Store) (o : StoredObject) (bucket : BucketId)
    (id : ObjectId) :
    (m.addObject o).object? bucket id =
      (m.object? bucket id).or
        (if bucket = o.info.bucket ∧ id = o.info.id ∧ (m.bucket? bucket).isSome then some o
          else none) := by
  simp only [object?, bucket?_addObject]
  cases hb : m.bucket? bucket with
  | none => simp
  | some b =>
    by_cases h : bucket = o.info.bucket
    · by_cases hid : id = o.info.id
      · simp [h, hid, StoredBucket.find?, StoredBucket.onObjects, List.find?_append]
      · simp [h, hid, StoredBucket.find?, StoredBucket.onObjects, List.find?_append, Ne.symm hid]
    · simp [h]

theorem Store.object?_addBucket (m : Store) (info : BucketMeta) (bucket : BucketId)
    (id : ObjectId) : (m.addBucket { info }).object? bucket id = m.object? bucket id := by
  simp only [object?, bucket?_addBucket]
  cases m.bucket? bucket with
  | some b => rfl
  | none => by_cases h : info.id = bucket <;> simp [h, StoredBucket.find?]

theorem Store.object?_removeBucket (m : Store) (bucket bucket' : BucketId) (id : ObjectId) :
    (m.removeBucket bucket).object? bucket' id =
      if bucket' = bucket then none else m.object? bucket' id := by
  simp only [object?, bucket?_removeBucket]
  split <;> rfl

theorem Store.object?_removeObject (m : Store) (bucket bucket' : BucketId) (id id' : ObjectId) :
    (m.removeObject bucket id).object? bucket' id' =
      if bucket' = bucket ∧ id' = id then none else m.object? bucket' id' := by
  simp only [object?, removeObject, bucket?_onObjects]
  by_cases hbucket : bucket' = bucket
  · cases m.bucket? bucket' with
    | none => simp
    | some b =>
      simp only [hbucket, StoredBucket.find?, StoredBucket.onObjects, if_true, Option.map_some,
        Option.bind_some, List.find?_filter, true_and]
      -- Among the objects that are kept, those of another key are found as before.
      by_cases hid : id' = id
      · rw [if_pos hid, List.find?_eq_none]
        intro o _
        by_cases ho : o.info.id = id <;> simp [ho, hid]
      · rw [if_neg hid]
        congr 1
        funext o
        by_cases ho : o.info.id = id' <;> simp [ho, hid]
  · simp [hbucket]

/-! ## Contents after a change -/

def Store.HasBucket (m : Store) (bucket : BucketId) : Prop :=
  ∃ b ∈ m.buckets, b.info.id = bucket

/-- The object lies in a bucket of this identifier. -/
def Store.Contains (m : Store) (bucket : BucketId) (o : StoredObject) : Prop :=
  ∃ b ∈ m.buckets, b.info.id = bucket ∧ o ∈ b.objects

theorem Store.Contains.hasBucket (h : m.Contains bucket o) : m.HasBucket bucket := by
  obtain ⟨b, hb, hid, -⟩ := h
  exact ⟨b, hb, hid⟩

theorem Store.hasBucket_addBucket {info : BucketMeta} :
    (m.addBucket { info }).HasBucket bucket ↔ m.HasBucket bucket ∨ info.id = bucket := by
  simp [HasBucket, addBucket, or_and_right, exists_or]

theorem Store.hasBucket_removeBucket :
    (m.removeBucket bucket).HasBucket bucket' ↔ m.HasBucket bucket' ∧ bucket' ≠ bucket := by
  simp only [HasBucket, removeBucket, List.mem_filter, bne_iff_ne]
  constructor
  · rintro ⟨b, ⟨hb, hne⟩, rfl⟩
    exact ⟨⟨b, hb, rfl⟩, hne⟩
  · rintro ⟨⟨b, hb, rfl⟩, hne⟩
    exact ⟨b, ⟨hb, hne⟩, rfl⟩

theorem Store.hasBucket_onObjects {f : List StoredObject → List StoredObject} :
    (m.onObjects bucket f).HasBucket bucket' ↔ m.HasBucket bucket' :=
  exists_onObjects

theorem Store.contains_addBucket {info : BucketMeta} :
    (m.addBucket { info }).Contains bucket o ↔ m.Contains bucket o := by
  simp [Contains, addBucket, or_and_right, exists_or]

theorem Store.contains_removeBucket :
    (m.removeBucket bucket).Contains bucket' o ↔ m.Contains bucket' o ∧ bucket' ≠ bucket := by
  simp only [Contains, removeBucket, List.mem_filter, bne_iff_ne]
  constructor
  · rintro ⟨b, ⟨hb, hne⟩, rfl, ho⟩
    exact ⟨⟨b, hb, rfl, ho⟩, hne⟩
  · rintro ⟨⟨b, hb, rfl, ho⟩, hne⟩
    exact ⟨b, ⟨hb, hne⟩, rfl, ho⟩

theorem Store.contains_addObject {o' : StoredObject} :
    (m.addObject o).Contains bucket o' ↔
      m.Contains bucket o' ∨ o' = o ∧ bucket = o.info.bucket ∧ m.HasBucket bucket := by
  constructor
  · rintro ⟨b, hb, rfl, ho⟩
    obtain ⟨b₀, hb₀, rfl⟩ := mem_onObjects.mp hb
    split at ho
    · rename_i hid
      obtain ho | rfl : o' ∈ b₀.objects ∨ o' = o := by simpa [StoredBucket.onObjects] using ho
      · exact .inl ⟨b₀, hb₀, by simp [hid], ho⟩
      · exact .inr ⟨rfl, by simp [hid], b₀, hb₀, by simp [hid]⟩
    · rename_i hid
      exact .inl ⟨b₀, hb₀, by simp [hid], ho⟩
  · rintro (⟨b, hb, rfl, ho⟩ | ⟨rfl, rfl, b, hb, hid⟩)
    · refine ⟨_, mem_onObjects.mpr ⟨b, hb, rfl⟩, ?_, ?_⟩
      · split <;> rfl
      · split
        · simp [StoredBucket.onObjects, ho]
        · exact ho
    · refine ⟨_, mem_onObjects.mpr ⟨b, hb, rfl⟩, ?_, ?_⟩
      · split <;> exact hid
      · simp [hid, StoredBucket.onObjects]

theorem Store.contains_removeObject :
    (m.removeObject bucket id).Contains bucket' o ↔
      m.Contains bucket' o ∧ ¬(bucket' = bucket ∧ o.info.id = id) := by
  constructor
  · rintro ⟨b, hb, rfl, ho⟩
    obtain ⟨b₀, hb₀, rfl⟩ := mem_onObjects.mp hb
    split at ho
    · rename_i hid
      obtain ⟨ho, hne⟩ : o ∈ b₀.objects ∧ o.info.id ≠ id := by
        simpa [StoredBucket.onObjects] using ho
      exact ⟨⟨b₀, hb₀, by simp [hid], ho⟩, fun h => hne h.2⟩
    · rename_i hid
      exact ⟨⟨b₀, hb₀, by simp [hid], ho⟩, fun h => hid (by simpa [hid] using h.1)⟩
  · rintro ⟨⟨b, hb, rfl, ho⟩, hne⟩
    refine ⟨_, mem_onObjects.mpr ⟨b, hb, rfl⟩, ?_, ?_⟩
    · split <;> rfl
    · split
      · rename_i hid
        have hid' : o.info.id ≠ id := fun h => hne ⟨hid, h⟩
        simp [StoredBucket.onObjects, ho, hid']
      · exact ho

/-! ## What holds of the content -/

/-- The store answers, and fails for no object. -/
def Store.Healthy (m : Store) : Prop := m.stalled = false ∧ m.failingHeads = []

/-- Buckets are told apart by their identifiers, and so are the objects of each bucket. -/
structure Store.Apart (m : Store) : Prop where
  buckets : (m.buckets.map (·.info.id)).Nodup
  objects : ∀ b ∈ m.buckets, (b.objects.map (·.info.id)).Nodup

theorem Store.Apart.bucket?_of_mem (h : m.Apart) (hb : b ∈ m.buckets) :
    m.bucket? b.info.id = some b :=
  find?_of_nodup_map h.buckets hb

theorem Store.Apart.object?_of_mem (h : m.Apart) (hb : b ∈ m.buckets) (ho : o ∈ b.objects) :
    m.object? b.info.id o.info.id = some o := by
  rw [object?_of_bucket? (h.bucket?_of_mem hb)]
  exact find?_of_nodup_map (h.objects b hb) ho

theorem Store.Apart.object?_of_contains (h : m.Apart) (ho : m.Contains bucket o) :
    m.object? bucket o.info.id = some o := by
  obtain ⟨b, hb, rfl, ho⟩ := ho
  exact h.object?_of_mem hb ho

/-- The objects of a bucket are told apart by their identifiers and record where they
are and how large. -/
structure StoredBucket.Sound (ids : IdSupply) (b : StoredBucket) : Prop where
  distinct : (b.objects.map (·.info.id)).Nodup
  issued : ∀ o ∈ b.objects, ids.Issued o.info.id
  filed : ∀ o ∈ b.objects, o.info.bucket = b.info.id
  sized : ∀ o ∈ b.objects, o.info.size = o.payload.length

/-- Buckets are told apart by their identifiers, which the supply `ids` has handed out, as
are those of objects. -/
structure Store.Sound (ids : IdSupply) (m : Store) : Prop where
  distinct : (m.buckets.map (·.info.id)).Nodup
  issued : ∀ b ∈ m.buckets, ids.Issued b.info.id
  inside : ∀ b ∈ m.buckets, b.Sound ids

variable {ids ids' : IdSupply}

theorem StoredBucket.Sound.of_extends (h : b.Sound ids) (hext : ids'.Extends ids) : b.Sound ids' :=
  { h with issued := fun o ho => (h.issued o ho).of_extends hext }

theorem Store.Sound.of_extends (h : m.Sound ids) (hext : ids'.Extends ids) : m.Sound ids' where
  distinct := h.distinct
  issued b hb := (h.issued b hb).of_extends hext
  inside b hb := (h.inside b hb).of_extends hext

theorem Store.Sound.apart (h : m.Sound ids) : m.Apart :=
  ⟨h.distinct, fun b hb => (h.inside b hb).distinct⟩

/-- A bucket is found by its identifier. -/
theorem Store.Sound.bucket?_of_mem (h : m.Sound ids) (hb : b ∈ m.buckets) :
    m.bucket? b.info.id = some b :=
  h.apart.bucket?_of_mem hb

/-- An object is found in its bucket by its identifier. -/
theorem StoredBucket.Sound.find?_of_mem (h : b.Sound ids) (ho : o ∈ b.objects) :
    b.find? o.info.id = some o :=
  find?_of_nodup_map h.distinct ho

theorem Store.Sound.addBucket (h : m.Sound ids) {info : BucketMeta} (hissued : ids.Issued info.id)
    (hfresh : ∀ b ∈ m.buckets, b.info.id ≠ info.id) : (m.addBucket { info }).Sound ids where
  distinct := by
    simp only [Store.addBucket, List.map_append, List.map_cons, List.map_nil]
    rw [List.nodup_append_comm]
    simpa using ⟨hfresh, h.distinct⟩
  issued b hb := by
    obtain hb | rfl : b ∈ m.buckets ∨ b = { info } := by simpa [Store.addBucket] using hb
    · exact h.issued b hb
    · exact hissued
  inside b hb := by
    obtain hb | rfl : b ∈ m.buckets ∨ b = { info } := by simpa [Store.addBucket] using hb
    · exact h.inside b hb
    · constructor <;> simp

theorem Store.Sound.removeBucket (h : m.Sound ids) (bucket : BucketId) :
    (m.removeBucket bucket).Sound ids where
  distinct := (List.filter_sublist.map _).nodup h.distinct
  issued b hb := h.issued b (List.mem_of_mem_filter hb)
  inside b hb := h.inside b (List.mem_of_mem_filter hb)

/-- A change of the objects of one bucket has to keep that bucket in order. -/
theorem Store.Sound.onObjects (h : m.Sound ids) {f : List StoredObject → List StoredObject}
    (hf : ∀ b ∈ m.buckets, b.info.id = bucket → (b.onObjects f).Sound ids) :
    (m.onObjects bucket f).Sound ids := by
  constructor
  · have hids := congrArg (List.map BucketMeta.id) (m.map_info_onObjects bucket f)
    simp only [List.map_map] at hids
    exact hids ▸ h.distinct
  · intro b hb
    obtain ⟨b₀, hb₀, rfl⟩ := Store.mem_onObjects.mp hb
    have hissued := h.issued b₀ hb₀
    split <;> exact hissued
  · intro b hb
    obtain ⟨b₀, hb₀, rfl⟩ := Store.mem_onObjects.mp hb
    split
    · exact hf b₀ hb₀ ‹_›
    · exact h.inside b₀ hb₀

theorem Store.Sound.addObject (h : m.Sound ids) (hissued : ids.Issued o.info.id)
    (hfresh : ∀ b ∈ m.buckets, ∀ o' ∈ b.objects, o'.info.id ≠ o.info.id)
    (hsized : o.info.size = o.payload.length) : (m.addObject o).Sound ids := by
  refine h.onObjects ?_
  intro b hb hbucket
  have hmem : ∀ o', o' ∈ (b.onObjects (· ++ [o])).objects ↔ o' ∈ b.objects ∨ o' = o := by
    simp [StoredBucket.onObjects]
  have hin := h.inside b hb
  constructor
  · simp only [StoredBucket.onObjects, List.map_append, List.map_cons, List.map_nil]
    rw [List.nodup_append_comm]
    simpa using ⟨hfresh b hb, hin.distinct⟩
  · intro o' ho'
    obtain ho' | rfl := (hmem o').mp ho'
    · exact hin.issued o' ho'
    · exact hissued
  · intro o' ho'
    obtain ho' | rfl := (hmem o').mp ho'
    · exact hin.filed o' ho'
    · exact hbucket.symm
  · intro o' ho'
    obtain ho' | rfl := (hmem o').mp ho'
    · exact hin.sized o' ho'
    · exact hsized

/-- The object that an upload with this header stores under the identifier `id`. -/
def StoredObject.ofHeader (id : ObjectId) (header : ObjectHeader) (payload : Bytes) :
    StoredObject where
  info := ⟨id, header.bucket, header.owner, payload.length, header.attributes⟩
  parent := header.parent
  payload := payload

/-- An object of the store does not have the key that is drawn next. -/
theorem Store.Sound.ne_draw (h : m.Sound ids) (hd : (ids.draw .object).2.Distinct)
    (hb : b ∈ m.buckets) (ho : o ∈ b.objects) : o.info.id ≠ (ids.draw .object).1 :=
  ((h.inside b hb).issued o ho).ne_draw hd

/-- The key that is drawn next is that of no object. -/
theorem Store.Sound.object?_draw (h : m.Sound ids) (hd : (ids.draw .object).2.Distinct)
    (bucket : BucketId) : m.object? bucket (ids.draw .object).1 = none := by
  cases hobject : m.object? bucket (ids.draw .object).1 with
  | none => rfl
  | some o =>
    obtain ⟨b, hbucket, hfind⟩ := Store.object?_eq_some hobject
    obtain ⟨ho, hid⟩ := StoredBucket.find?_eq_some hfind
    exact absurd hid (h.ne_draw hd (Store.bucket?_eq_some hbucket).1 ho)

theorem Store.Sound.upload (h : m.Sound ids) (hd : (ids.draw .object).2.Distinct)
    (header : ObjectHeader) (payload : Bytes) :
    (m.addObject (.ofHeader (ids.draw .object).1 header payload)).Sound (ids.draw .object).2 :=
  (h.of_extends (IdSupply.extends_draw ids .object)).addObject (IdSupply.issued_draw ids .object)
    (fun _ hb _ ho => h.ne_draw hd hb ho) rfl

theorem Store.Sound.removeObject (h : m.Sound ids) (bucket : BucketId) (id : ObjectId) :
    (m.removeObject bucket id).Sound ids := by
  refine h.onObjects ?_
  intro b hb _
  have hin := h.inside b hb
  exact
    { distinct := (List.filter_sublist.map _).nodup hin.distinct
      issued := fun o ho => hin.issued o (List.mem_of_mem_filter ho)
      filed := fun o ho => hin.filed o (List.mem_of_mem_filter ho)
      sized := fun o ho => hin.sized o (List.mem_of_mem_filter ho) }

end ObjectGateway.Memory
