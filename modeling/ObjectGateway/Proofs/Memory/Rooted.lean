import Mathlib.Data.List.Find
import ObjectGateway.Proofs.Memory.Changes
import ObjectGateway.Proofs.Memory.Parts
/-!
# Root objects

The buckets with their root objects alone, those without a parent, are a store of their own. A
call that names no auxiliary object, and searches root objects only, goes there as it does in
the whole store.
-/
namespace ObjectGateway.Memory

variable {m : Store} {hidden : ObjectId → Prop} {bucket : BucketId} {id : ObjectId}

-- ---------------------------------------------------------------------------
-- Root objects and auxiliary objects
-- ---------------------------------------------------------------------------

def StoredBucket.rooted (b : StoredBucket) : StoredBucket :=
  { b with objects := b.objects.filter (·.parent.isNone) }

def StoredBucket.auxiliary (b : StoredBucket) : StoredBucket :=
  { b with objects := b.objects.filter (·.parent.isSome) }

def Store.rooted (m : Store) : Store :=
  { m with buckets := m.buckets.map StoredBucket.rooted }

def Store.auxiliary (m : Store) : List StoredBucket :=
  m.buckets.map StoredBucket.auxiliary

/-- All auxiliary objects have identifiers of this kind. -/
def Store.Hides (m : Store) (hidden : ObjectId → Prop) : Prop :=
  m.Each (fun _ => True) fun o => o.parent.isSome → hidden o.info.id

def Store.IsAuxiliary (m : Store) (id : ObjectId) : Prop :=
  ∃ b ∈ m.buckets, ∃ o ∈ b.objects, o.parent.isSome ∧ o.info.id = id

theorem Store.hides_isAuxiliary (m : Store) : m.Hides m.IsAuxiliary :=
  fun b hb => ⟨trivial, fun o ho hparent => ⟨b, hb, o, ho, hparent, rfl⟩⟩

theorem Store.Healthy.rooted (h : m.Healthy) : m.rooted.Healthy := h

theorem Store.Sound.rooted {ids : IdSupply} (h : m.Sound ids) : m.rooted.Sound ids where
  distinct := by
    have hdistinct := h.distinct
    simpa [Store.rooted, Function.comp_def, StoredBucket.rooted] using hdistinct
  issued b' hb' := by
    obtain ⟨b, hb, rfl⟩ := List.mem_map.mp hb'
    exact h.issued b hb
  inside b' hb' := by
    obtain ⟨b, hb, rfl⟩ := List.mem_map.mp hb'
    have hinside := h.inside b hb
    exact
      { distinct := (List.filter_sublist.map _).nodup hinside.distinct
        issued := fun o ho => hinside.issued o (List.mem_of_mem_filter ho)
        filed := fun o ho => hinside.filed o (List.mem_of_mem_filter ho)
        sized := fun o ho => hinside.sized o (List.mem_of_mem_filter ho) }

-- ---------------------------------------------------------------------------
-- Lookups
-- ---------------------------------------------------------------------------

theorem Store.bucket?_rooted (m : Store) (bucket : BucketId) :
    m.rooted.bucket? bucket = (m.bucket? bucket).map StoredBucket.rooted :=
  List.find?_map ..

/-- What is not hidden is found among the root objects if it is found at all. -/
theorem Store.Hides.object?_rooted (h : m.Hides hidden) (hid : ¬hidden id) (bucket : BucketId) :
    m.rooted.object? bucket id = m.object? bucket id := by
  rw [Store.object?, Store.object?, Store.bucket?_rooted]
  cases hbucket : m.bucket? bucket with
  | none => rfl
  | some b =>
    change (b.objects.filter (·.parent.isNone)).find? (fun o => o.info.id == id) =
      b.objects.find? fun o => o.info.id == id
    rw [List.find?_filter]
    refine List.find?_congr fun o ho => ?_
    by_cases hplace : o.info.id = id
    · have hroot : o.parent.isNone := by
        by_contra hparent
        exact hid (hplace ▸ (h b (Store.bucket?_eq_some hbucket).1).2 o ho
          (by simpa [Option.isSome_iff_ne_none] using hparent))
      simp [hroot, hplace]
    · simp [hplace]

/-- A search of root objects finds the same among them. -/
theorem Store.search_rooted (m : Store) (bucket : BucketId) {filters : List SearchFilter}
    (hroot : .root ∈ filters) : m.rooted.search bucket filters = m.search bucket filters := by
  rw [Store.search, Store.search, Store.bucket?_rooted]
  cases m.bucket? bucket with
  | none => rfl
  | some b =>
    have hfilter : (b.objects.filter (·.parent.isNone)).filter
        (fun o => filters.all o.satisfies) = b.objects.filter fun o => filters.all o.satisfies := by
      rw [List.filter_filter]
      refine List.filter_congr fun o _ => ?_
      have hall : filters.all o.satisfies = true → o.parent.isNone = true := fun hall =>
        List.all_eq_true.mp hall .root hroot
      cases hsatisfies : filters.all o.satisfies with
      | false => rw [Bool.false_and]
      | true => rw [hall hsatisfies, Bool.true_and]
    exact congrArg (fun objects : List StoredObject => Except.ok (objects.map (·.info.id))) hfilter

-- ---------------------------------------------------------------------------
-- Changes
-- ---------------------------------------------------------------------------

/-- A change of the objects of a bucket that changes root objects in the same way. -/
theorem Store.rooted_onObjects (m : Store) (bucket : BucketId)
    {f : List StoredObject → List StoredObject}
    (hf : ∀ l, (f l).filter (·.parent.isNone) = f (l.filter (·.parent.isNone))) :
    (m.onObjects bucket f).rooted = m.rooted.onObjects bucket f := by
  refine congrArg (fun buckets => { m with buckets }) ?_
  simp only [Store.onObjects, Store.rooted, List.map_map]
  refine List.map_congr_left fun b _ => ?_
  by_cases hid : b.info.id = bucket
  · simp [StoredBucket.rooted, hid, hf]
  · simp [StoredBucket.rooted, hid]

theorem Store.rooted_addObject (m : Store) {o : StoredObject} (ho : o.parent = none) :
    (m.addObject o).rooted = m.rooted.addObject o :=
  m.rooted_onObjects _ fun l => by simp [ho]

theorem Store.rooted_removeObject (m : Store) (bucket : BucketId) (id : ObjectId) :
    (m.removeObject bucket id).rooted = m.rooted.removeObject bucket id :=
  m.rooted_onObjects _ fun l => by simp only [List.filter_filter, Bool.and_comm]

theorem Store.rooted_removeBucket (m : Store) (bucket : BucketId) :
    (m.removeBucket bucket).rooted = m.rooted.removeBucket bucket := by
  simp [Store.rooted, Store.removeBucket, List.filter_map, Function.comp_def, StoredBucket.rooted]

theorem Store.rooted_addBucket (m : Store) (info : BucketMeta) :
    (m.addBucket { info }).rooted = m.rooted.addBucket { info } := by
  simp [Store.rooted, Store.addBucket, StoredBucket.rooted]

-- ---------------------------------------------------------------------------
-- Calls
-- ---------------------------------------------------------------------------

/-- Hidden identifiers are those of objects. -/
def hiddenIds (hidden : ObjectId → Prop) : (kind : IdKind) → Id kind → Prop
  | .object, id => hidden id
  | _, _ => False

theorem Store.Sound.issued_of_auxiliary {ids : IdSupply} (h : m.Sound ids) {kind : IdKind}
    {id : Id kind} (hid : hiddenIds m.IsAuxiliary kind id) : ids.Issued id := by
  cases kind with
  | object =>
    obtain ⟨b, hb, o, ho, -, rfl⟩ := hid
    exact (h.inside b hb).issued o ho
  | _ => exact hid.elim

/-- Commands that search root objects only, and name no auxiliary object, go there as in the
whole store. Nothing they create is auxiliary. -/
theorem serve_rooted {owner : OwnerId} {w : World Store} {c : Command}
    (hhides : w.store.Hides hidden)
    (hc : c.Within (hiddenIds hidden) (SearchFilter.root ∈ ·) owner) :
    Parted Store.rooted (·.Hides hidden) w c := by
  have hrest : (serve w c).after.store.Hides hidden := by
    refine Store.Each.serve hhides (fun _ _ _ => trivial) ?_
    rintro header payload id content rfl hparent
    rw [StoredObject.ofHeader, hc.2] at hparent
    cases hparent
  cases c with
  | headObject bucket id =>
    refine ⟨?_, rfl, rfl, hrest⟩
    simp only [serve, looked, answered, Store.head, hhides.object?_rooted hc.2]
    rfl
  | getRange bucket id offset length =>
    refine ⟨?_, rfl, rfl, hrest⟩
    simp only [serve, looked, answered, Store.range, hhides.object?_rooted hc.2]
  | searchObjects bucket filters =>
    refine ⟨?_, rfl, rfl, hrest⟩
    simp only [serve, looked, answered, w.store.search_rooted bucket hc.2]
  | getBucket bucket =>
    refine ⟨?_, rfl, rfl, hrest⟩
    simp only [serve, looked, answered, Store.bucket?_rooted]
    cases w.store.bucket? bucket with
    | none => rfl
    | some b => rfl
  | listBuckets owner' =>
    refine ⟨?_, rfl, rfl, hrest⟩
    simp [serve, looked, answered, Store.rooted, List.filter_map, Function.comp_def,
      StoredBucket.rooted]
  | putBucket header => exact ⟨rfl, rfl, (w.store.rooted_addBucket _).symm, hrest⟩
  | deleteBucket bucket =>
    have hsame := w.store.bucket?_rooted bucket
    cases hbucket : w.store.bucket? bucket with
    | none =>
      refine ⟨?_, ?_, ?_, hrest⟩ <;> simp [serve, hsame, hbucket, looked, answered]
    | some b =>
      refine ⟨?_, ?_, ?_, hrest⟩ <;>
        simp [serve, hsame, hbucket, answered, Store.rooted_removeBucket]
  | deleteObject bucket id =>
    have hsame := hhides.object?_rooted hc.2 bucket
    cases hobject : w.store.object? bucket id with
    | none =>
      refine ⟨?_, ?_, ?_, hrest⟩ <;> simp [serve, hsame, hobject, looked, answered]
    | some o =>
      refine ⟨?_, ?_, ?_, hrest⟩ <;>
        simp [serve, hsame, hobject, answered, Store.rooted_removeObject]
  | putObject header payload =>
    have hsame := w.store.bucket?_rooted header.bucket
    cases hdrain : payload.drain with
    | failed cause => refine ⟨?_, ?_, ?_, hrest⟩ <;> simp [serve, hdrain, looked, answered]
    | waiting chunks => refine ⟨?_, ?_, ?_, hrest⟩ <;> simp [serve, hdrain, waiting]
    | complete chunks =>
      cases hbucket : w.store.bucket? header.bucket with
      | none =>
        refine ⟨?_, ?_, ?_, hrest⟩ <;> simp [serve, hdrain, answered, upload, hsame, hbucket]
      | some b =>
        refine ⟨?_, ?_, ?_, hrest⟩ <;>
          simp only [serve, hdrain, answered, upload, hsame, hbucket, Option.map_some]
        have hadded := w.store.rooted_addObject
          (o := .ofHeader (w.host.draw .object).1 header chunks.flatten) hc.2
        exact congrArg (fun s : Store => { s with lastUpload := chunks.map List.length })
          hadded.symm

/-- What there is beside root objects: auxiliary ones, whose identifiers are hidden. -/
def auxiliarySurroundings (owner : OwnerId) (hidden : ObjectId → Prop) :
    Surroundings Store.rooted (SearchFilter.root ∈ ·) owner where
  rest m := m.Hides hidden
  off := hiddenIds hidden
  serve := serve_rooted

end ObjectGateway.Memory
