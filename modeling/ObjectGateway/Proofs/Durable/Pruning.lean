import ObjectGateway.Proofs.Durable.Directories
/-!
# What deletions prune

The directories below the base directory can be told from the rows: they are that of each
bucket and the two that each object is filed under. So a deletion takes with it just those
directories that led to its payload alone.
-/
namespace ObjectGateway.Durable

variable {start w : World Store} {log : List Deed} {m : Memory.Store} {base k : Location}
  {t t' : FileTree} {bucket : BucketId} {id : ObjectId} {o : Memory.StoredObject}

-- ---------------------------------------------------------------------------
-- Directories by rows
-- ---------------------------------------------------------------------------

/-- The directories that rows call for: that of each bucket, and the two that each object is
filed under. -/
def CalledFor (base : Location) (buckets : List BucketRow) (objects : List ObjectRow)
    (l : Location) : Prop :=
  (∃ row ∈ buckets, l = bucketRoot base row.id) ∨
    ∃ row ∈ objects, l ∈ shardDirs base row.bucket row.id

variable {buckets : List BucketRow} {objects : List ObjectRow}

theorem Recorded.calledFor_iff (h : Recorded buckets objects m) (hk : k ≠ []) :
    CalledFor base buckets objects (base ++ k) ↔ Needed m k := by
  have hobjects := h.exists_object_iff fun bucket id => base ++ k ∈ shardDirs base bucket id
  rw [CalledFor, ← hobjects]
  simp only [mem_shardDirs_iff, bucketRoot, List.append_cancel_left_eq]
  constructor
  · rintro (⟨row, hrow, rfl⟩ | ⟨bucket, o, ho, -, hbelow⟩)
    · exact .root (h.hasBucket_iff.mpr ⟨row, hrow, rfl⟩)
    · exact .shard ho hbelow
  · intro hneeded
    by_cases hshort : k.length < 2
    · obtain ⟨bucket, hb, rfl⟩ := hneeded.exists_bucket hk hshort
      obtain ⟨row, hrow, rfl⟩ := h.hasBucket_iff.mp hb
      exact .inl ⟨row, hrow, rfl⟩
    · have hlong := Nat.not_lt.mp hshort
      obtain ⟨bucket, o, ho, hbelow⟩ := hneeded.exists_object hlong
      exact .inr ⟨bucket, o, ho, hlong, hbelow⟩

-- ---------------------------------------------------------------------------
-- What a deletion clears
-- ---------------------------------------------------------------------------

/-- What the deletion of an object does to the directories, given the rows of objects before
it. -/
structure Clears (base : Location) (objects : List ObjectRow) (bucket : BucketId) (id : ObjectId)
    (before after : FileTree) : Prop where
  /-- Of the two that the object was filed under, those go below which no other object lies. -/
  shards : ∀ l ∈ shardDirs base bucket id, before.find? l = some .dir ∧
    (after.find? l = none ↔ ∀ row ∈ objects, l.within (payloadFile base row.bucket row.id) →
      row.bucket = bucket ∧ row.id = id)
  others : ∀ l, base.within l → l ∉ shardDirs base bucket id →
    (after.find? l = some .dir ↔ before.find? l = some .dir)
  root : after.find? (bucketRoot base bucket) = some .dir
  /-- All that leads to another payload stays. -/
  leading : ∀ row ∈ objects, ¬(row.bucket = bucket ∧ row.id = id) →
    ∀ l : Location, l.within (payloadFile base row.bucket row.id) →
      l ≠ payloadFile base row.bucket row.id → after.find? l = some .dir

/-- The other objects are those of the other rows. -/
theorem Recorded.exists_other_iff (h : Recorded buckets objects m)
    (P : BucketId → ObjectId → Prop) :
    (∃ bucket' o, (m.removeObject bucket id).Contains bucket' o ∧ P bucket' o.info.id) ↔
      ∃ row ∈ objects, ¬(row.bucket = bucket ∧ row.id = id) ∧ P row.bucket row.id := by
  rw [← h.exists_object_iff fun bucket' id' => ¬(bucket' = bucket ∧ id' = id) ∧ P bucket' id']
  simp only [Memory.Store.contains_removeObject, and_assoc]

theorem Recorded.clears (hrec : Recorded buckets objects m) (hfiled : Filed base t m)
    (htidy : Tidy base t m) (ho : m.Contains bucket o)
    (hfiled' : Filed base t' (m.removeObject bucket o.info.id))
    (htidy' : Tidy base t' (m.removeObject bucket o.info.id)) :
    Clears base objects bucket o.info.id t t' where
  shards l hl := by
    obtain ⟨k, rfl⟩ := exists_below_of_mem_shardDirs hl
    obtain ⟨hlong, hk⟩ := mem_shardDirs_iff.mp hl
    have hshort : k.length ≤ 3 := length_shardNames bucket o.info.id ▸ hk.length_le
    refine ⟨hfiled.find?_needed (.shard ho hk), ?_⟩
    have hnone : t'.find? (base ++ k) = none ↔
        ¬Needed (m.removeObject bucket o.info.id) k := by
      rw [← hfiled'.find?_dir_iff htidy']
      cases hfind : t'.find? (base ++ k) with
      | none => simp
      | some node =>
        cases node with
        | dir => simp
        | file data =>
          have := hfiled'.layered.files hfind
          omega
    rw [hnone, needed_iff_exists_object hlong, hrec.exists_other_iff fun bucket id =>
      k <+: shardNames bucket id]
    simp only [within_payloadFile_iff hshort]
    constructor
    · intro hnone row hrow hbelow
      by_contra hother
      exact hnone ⟨row, hrow, hother, hbelow⟩
    · rintro hall ⟨row, hrow, hother, hbelow⟩
      exact hother (hall row hrow hbelow)
  others l hl hout := by
    obtain ⟨k, rfl⟩ := Location.within_iff.mp hl
    rw [hfiled'.find?_dir_iff htidy', hfiled.find?_dir_iff htidy]
    constructor
    · exact fun hneeded => hneeded.mono (fun _ hb => Memory.Store.hasBucket_onObjects.mp hb)
        fun _ _ ho => (Memory.Store.contains_removeObject.mp ho).1
    · intro hneeded
      by_cases hshort : k.length < 2
      · exact hneeded.of_short hshort fun _ hb => Memory.Store.hasBucket_onObjects.mpr hb
      · have hlong := Nat.not_lt.mp hshort
        obtain ⟨bucket', o', ho', hk⟩ := hneeded.exists_object hlong
        refine .shard (Memory.Store.contains_removeObject.mpr ⟨ho', ?_⟩) hk
        rintro ⟨rfl, hid⟩
        exact hout (mem_shardDirs_iff.mpr ⟨hlong, hid ▸ hk⟩)
  root := hfiled'.roots bucket (Memory.Store.hasBucket_onObjects.mpr ho.hasBucket)
  leading row hrow hother l hl hne := by
    have hthere := (hrec.exists_other_iff fun bucket id => payloadFile base bucket id =
      payloadFile base row.bucket row.id).mpr ⟨row, hrow, hother, rfl⟩
    obtain ⟨bucket', o', ho', hplace⟩ := hthere
    rw [← hplace] at hl hne
    exact hfiled'.find?_leading ho' (Location.within_iff.mp hl) hne

/-- The rows are those of a store that is held, and a deletion that succeeds clears what it
leaves empty. -/
theorem Neat.clears (h : Neat w m) {buckets : Table BucketRow} {objects : Table ObjectRow}
    (hrec : Recorded buckets.rows objects.rows m) {ctx : Context}
    (hdone : (ctx.settle w (call (.deleteObject bucket id) w)).1 = .ok ()) :
    Clears w.store.base objects.rows bucket id w.host.files
      (ctx.settle w (call (.deleteObject bucket id) w)).2.host.files := by
  have houtcome := ctx.settle_outcome w (call (.deleteObject bucket id) w)
  generalize ctx.settle w (call (.deleteObject bucket id) w) = r at houtcome hdone ⊢
  cases houtcome with
  | answered hanswer =>
    cases ho : m.object? bucket id with
    | none =>
      have hdelete := h.holds.deleteObject bucket id
      simp only [ho] at hdelete
      simp only [call, answered, hdelete, Option.some.injEq] at hanswer
      simp [← hanswer] at hdone
    | some o =>
      obtain ⟨db, hdelete, hneat⟩ := h.removeObject ho
      obtain ⟨hin, rfl, -⟩ := h.holds.of_object? ho
      simp only [call, answered, hdelete]
      exact hrec.clears h.holds.filed h.tidy hin hneat.holds.filed hneat.tidy
  | unmade => cases hdone
  | gaveUp => cases hdone
  | unanswered => cases hdone

/-- After any history in which every change succeeds, or finds nothing to change, the
directories below the base directory are just those that the rows call for, and the deletion of
an object removes just those of them that led to its payload alone. -/
theorem directories_exact (hstart : Fresh start) (hrun : backend.Run start log w)
    (hsmooth : ∀ d ∈ log, d.Smooth) (hd : w.host.ids.Distinct) :
    ∃ buckets objects, w.store.db.bucketTable = .ok buckets ∧
      w.store.db.objectTable = .ok objects ∧
      (∀ l, w.store.base.within l → l ≠ w.store.base →
        (w.host.files.find? l = some .dir ↔
          CalledFor w.store.base buckets.rows objects.rows l)) ∧
      ∀ (ctx : Context) bucket id,
        (ctx.settle w (call (.deleteObject bucket id) w)).1 = .ok () →
        Clears w.store.base objects.rows bucket id w.host.files
          (ctx.settle w (call (.deleteObject bucket id) w)).2.host.files := by
  obtain ⟨m, hm⟩ := neat_of_run hstart hrun hsmooth hd
  obtain ⟨buckets, objects, hdb, hrec⟩ := hm.holds.recorded
  refine ⟨buckets, objects, by rw [hdb]; rfl, by rw [hdb]; rfl, fun l hl hne => ?_,
    fun ctx bucket id hdone => hm.clears hrec hdone⟩
  obtain ⟨k, rfl⟩ := Location.within_iff.mp hl
  have hk : k ≠ [] := by simpa using hne
  rw [hrec.calledFor_iff hk, hm.holds.filed.find?_dir_iff hm.tidy]

/-- One object in one bucket. Its deletion removes both directories that it was filed under and
leaves that of the bucket. -/
theorem directories_exact_objectWorld :
    let base := objectWorld.store.base
    let r := Context.settle {} objectWorld (call (.deleteObject ⟨0⟩ ⟨1⟩) objectWorld)
    ∃ log, Fresh emptyWorld ∧ backend.Run emptyWorld log objectWorld ∧ (∀ d ∈ log, d.Smooth) ∧
      objectWorld.host.ids.Distinct ∧ r.1 = .ok () ∧
      (∀ l ∈ shardDirs base ⟨0⟩ ⟨1⟩, objectWorld.host.files.find? l = some .dir ∧
        r.2.host.files.find? l = none) ∧
      r.2.host.files.find? (bucketRoot base ⟨0⟩) = some .dir := by
  intro base r
  have hd := distinct_objectWorld
  obtain ⟨hanswer, m, hholds, honly⟩ := objectWorld_holds
  let header : ObjectHeader := { bucket := ⟨0⟩, owner := Id.nil }
  let create : Command := .putBucket { owner := Id.nil }
  let put : Command := .putObject header (.ofChunks [[1, 2], [3]])
  have hcreated : Context.settle {} emptyWorld (backend.call create emptyWorld) =
      (.ok ⟨0⟩, bucketWorld) := settle_served rfl
  have hstored : Context.settle {} bucketWorld (backend.call put bucketWorld) =
      (.ok ⟨1⟩, objectWorld) := settle_served hanswer
  have hrun : backend.Run emptyWorld [⟨create, .ok ⟨0⟩⟩, ⟨put, .ok ⟨1⟩⟩] objectWorld :=
    (Backend.Run.start.settled hcreated).settled hstored
  have hsmooth : ∀ d ∈ [(⟨create, .ok ⟨0⟩⟩ : Deed), ⟨put, .ok ⟨1⟩⟩], d.Smooth := by
    simp [Deed.Smooth]
  have hdelete := hholds.deleteObject ⟨0⟩ ⟨1⟩
  have hobject : m.object? ⟨0⟩ ⟨1⟩ = some (.ofHeader ⟨1⟩ header [1, 2, 3]) :=
    hholds.sound.apart.object?_of_contains ((honly _ _).mpr ⟨rfl, rfl⟩)
  rw [hobject] at hdelete
  obtain ⟨w', hdelete, -⟩ := hdelete
  have hdeleted : (call (.deleteObject ⟨0⟩ ⟨1⟩) objectWorld).answer = some (.ok ()) :=
    congrArg some (congrArg Prod.fst hdelete)
  have hdone : r.1 = .ok () := congrArg Prod.fst (settle_served hdeleted)
  obtain ⟨buckets, objects, -, hobjects, -, hclears⟩ :=
    directories_exact fresh_emptyWorld hrun hsmooth hd
  have hcleared := hclears {} ⟨0⟩ ⟨1⟩ hdone
  refine ⟨_, fresh_emptyWorld, hrun, hsmooth, hd, hdone, fun l hl => ?_, hcleared.root⟩
  obtain ⟨hthere, hgone⟩ := hcleared.shards l hl
  refine ⟨hthere, hgone.mpr fun row hrow _ => ?_⟩
  -- The only row is that of the object.
  obtain ⟨buckets', objects', hdb, hrec⟩ := hholds.recorded
  rw [hdb, Recorded.objectTable_ofTables] at hobjects
  cases hobjects
  obtain ⟨bucket, o, ho, hplace⟩ :=
    (hrec.exists_object_iff fun bucket id => bucket = row.bucket ∧ id = row.id).mpr
      ⟨row, hrow, rfl, rfl⟩
  obtain ⟨rfl, rfl⟩ := (honly bucket o).mp ho
  exact ⟨hplace.1.symm, hplace.2.symm⟩

end ObjectGateway.Durable
