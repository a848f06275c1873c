import ObjectGateway.Proofs.Backend.Failures
import ObjectGateway.Proofs.Backend.History
import ObjectGateway.Proofs.Backend.Passing
/-!
# Directories of what is stored

As long as every change succeeds, or finds nothing to change, no directory is left without
a use: below the base directory there are that of each bucket and the two that lead to each
payload.
-/
namespace ObjectGateway

/-- The call did what it was made for, or found nothing to do it to. One that only looks may
come to anything. -/
def Deed.Smooth (d : Deed) : Prop :=
  d.command.isMutating = true → (∃ a, d.outcome = .ok a) ∨ d.outcome = .error .notFound

namespace Durable

open Memory (StoredBucket StoredObject)

variable {start w : World Store} {log : List Deed} {m m' : Memory.Store} {base k : Location} {t t' : FileTree}
  {bucket : BucketId} {id : ObjectId} {o : StoredObject}

-- ---------------------------------------------------------------------------
-- Directories with a use
-- ---------------------------------------------------------------------------

/-- The directories that a store needs, by their names from the base directory on. -/
inductive Needed (m : Memory.Store) : Location → Prop
  | base : Needed m []
  | root {bucket : BucketId} (h : m.HasBucket bucket) : Needed m [bucket.text]
  | shard {bucket : BucketId} {o : StoredObject} {k : Location} (h : m.Contains bucket o)
      (hk : k <+: shardNames bucket o.info.id) : Needed m k

/-- There is no directory that the store does not need. -/
def Tidy (base : Location) (t : FileTree) (m : Memory.Store) : Prop :=
  ∀ k, t.find? (base ++ k) = some .dir → Needed m k

theorem Needed.mono (h : Needed m k) (hbuckets : ∀ bucket, m.HasBucket bucket → m'.HasBucket bucket)
    (hobjects : ∀ bucket o, m.Contains bucket o → m'.Contains bucket o) : Needed m' k := by
  cases h with
  | base => exact .base
  | root h => exact .root (hbuckets _ h)
  | shard h hk => exact .shard (hobjects _ _ h) hk

/-- What lies as far down as an object is filed leads to an object. -/
theorem Needed.exists_object (h : Needed m k) (hlong : 2 ≤ k.length) :
    ∃ bucket o, m.Contains bucket o ∧ k <+: shardNames bucket o.info.id := by
  cases h with
  | base => simp at hlong
  | root h => simp at hlong
  | shard h hk => exact ⟨_, _, h, hk⟩

theorem needed_iff_exists_object (hlong : 2 ≤ k.length) :
    Needed m k ↔ ∃ bucket o, m.Contains bucket o ∧ k <+: shardNames bucket o.info.id :=
  ⟨fun h => h.exists_object hlong, fun ⟨_, _, ho, hk⟩ => .shard ho hk⟩

/-- What lies less far down is the directory of a bucket. -/
theorem Needed.exists_bucket (h : Needed m k) (hk : k ≠ []) (hshort : k.length < 2) :
    ∃ bucket, m.HasBucket bucket ∧ k = [bucket.text] := by
  cases h with
  | base => exact absurd rfl hk
  | root h => exact ⟨_, h, rfl⟩
  | shard h hbelow =>
    obtain _ | ⟨name, _ | ⟨next, rest⟩⟩ := k
    · exact absurd rfl hk
    · exact ⟨_, h.hasBucket, by rw [(List.cons_prefix_cons.mp hbelow).1]⟩
    · simp only [List.length_cons] at hshort
      omega

theorem Needed.of_short (h : Needed m k) (hshort : k.length < 2)
    (hbuckets : ∀ bucket, m.HasBucket bucket → m'.HasBucket bucket) : Needed m' k := by
  by_cases hk : k = []
  · exact hk ▸ .base
  · obtain ⟨bucket, hb, rfl⟩ := h.exists_bucket hk hshort
    exact .root (hbuckets bucket hb)

/-- A store has the directories that it needs. -/
theorem Filed.find?_needed (h : Filed base t m) (hk : Needed m k) :
    t.find? (base ++ k) = some .dir := by
  cases hk with
  | base =>
    rw [List.append_nil]
    exact h.layered.above (List.prefix_refl base)
  | root hb => exact h.roots _ hb
  | shard ho hk =>
    have hfile := h.payloads _ _ ho
    rw [payloadFile_eq] at hfile
    exact h.layered.dirs_above (h.layered.parent_of_found hfile) hk

/-- Directories alone lead to a payload. -/
theorem Filed.find?_leading (h : Filed base t m) (ho : m.Contains bucket o) {l : Location}
    (hl : l <+: payloadFile base bucket o.info.id) (hne : l ≠ payloadFile base bucket o.info.id) :
    t.find? l = some .dir := by
  have hdir := h.layered.lookup_found (h.find?_needed (.shard ho (List.prefix_refl _)))
  rw [← shardDir_eq] at hdir
  exact FileTree.lookup_eq_dir_iff.mp hdir l ((List.prefix_concat_iff.mp hl).resolve_left hne)

theorem Filed.find?_dir_iff (h : Filed base t m) (ht : Tidy base t m) :
    t.find? (base ++ k) = some .dir ↔ Needed m k :=
  ⟨ht k, h.find?_needed⟩

-- ---------------------------------------------------------------------------
-- Changes of a tidy tree
-- ---------------------------------------------------------------------------

theorem Tidy.addBucket (h : Tidy base t m) {info : BucketMeta}
    (hdirs : ∀ k, t'.find? (base ++ k) = some .dir →
      k <+: [info.id.text] ∨ t.find? (base ++ k) = some .dir) :
    Tidy base t' (m.addBucket { info }) := by
  intro k hdir
  obtain hnew | hold := hdirs k hdir
  · obtain rfl | rfl : k = [] ∨ k = [info.id.text] := by simpa [List.prefix_cons_iff] using hnew
    · exact .base
    · exact .root (Memory.Store.hasBucket_addBucket.mpr (.inr rfl))
  · exact (h k hold).mono (fun _ hb => Memory.Store.hasBucket_addBucket.mpr (.inl hb))
      fun _ _ ho => Memory.Store.contains_addBucket.mpr ho

theorem Tidy.addObject (h : Tidy base t m) (hbucket : m.HasBucket o.info.bucket)
    (hdirs : ∀ k, t'.find? (base ++ k) = some .dir →
      k <+: shardNames o.info.bucket o.info.id ∨ t.find? (base ++ k) = some .dir) :
    Tidy base t' (m.addObject o) := by
  intro k hdir
  obtain hnew | hold := hdirs k hdir
  · exact .shard (Memory.Store.contains_addObject.mpr (.inr ⟨rfl, rfl, hbucket⟩)) hnew
  · exact (h k hold).mono (fun _ hb => Memory.Store.hasBucket_onObjects.mpr hb)
      fun _ _ ho => Memory.Store.contains_addObject.mpr (.inl ho)

theorem Tidy.removeBucket (h : Tidy base t m) (bucket : BucketId) :
    Tidy base (t.prune (bucketRoot base bucket)) (m.removeBucket bucket) := by
  intro k hdir
  rw [bucketRoot, FileTree.find?_prune_below (by simp)] at hdir
  split at hdir
  · cases hdir
  · -- What is not below the directory of this bucket is there for another one.
    rename_i hout
    cases h k hdir with
    | base => exact .base
    | @root bucket' hb =>
      refine .root (Memory.Store.hasBucket_removeBucket.mpr ⟨hb, ?_⟩)
      rintro rfl
      exact hout (List.prefix_refl _)
    | @shard bucket' o k ho hk =>
      obtain _ | ⟨name, rest⟩ := k
      · exact .base
      · refine .shard (Memory.Store.contains_removeBucket.mpr ⟨ho, ?_⟩) hk
        rintro rfl
        obtain rfl := (List.cons_prefix_cons.mp hk).1
        exact hout (by simp)

/-- Above a payload there are the directories of its object. -/
theorem prefix_shardNames {name : String} (hk : k <+: shardNames bucket id ++ [name])
    (hshort : k.length ≤ 3) : k <+: shardNames bucket id := by
  refine (List.prefix_concat_iff.mp hk).resolve_left ?_
  rintro rfl
  simp [length_shardNames] at hshort

theorem within_payloadFile_iff (hshort : k.length ≤ 3) :
    (base ++ k).within (payloadFile base bucket id) ↔ k <+: shardNames bucket id := by
  rw [Location.within_iff, payloadFile_eq, List.prefix_append_right_inj]
  exact ⟨fun hk => prefix_shardNames hk hshort, fun hk => hk.trans (List.prefix_append _ _)⟩

/-- All that is found as far down as an object is filed leads to a payload or is one. -/
theorem Filed.exists_object (h : Filed base t m) (ht : Tidy base t m) (hlong : 2 ≤ k.length)
    (hfind : t.find? (base ++ k) ≠ none) :
    ∃ bucket o, m.Contains bucket o ∧ k <+: shardNames bucket o.info.id ++ [o.info.id.text] := by
  obtain ⟨node, hnode⟩ := Option.ne_none_iff_exists'.mp hfind
  cases node with
  | dir =>
    obtain ⟨bucket, o, ho, hk⟩ := (ht k hnode).exists_object hlong
    exact ⟨bucket, o, ho, hk.trans (List.prefix_append _ _)⟩
  | file data =>
    obtain ⟨bucket, o, ho, hplace⟩ := h.owned k data hnode
    rw [payloadFile_eq, List.append_cancel_left_eq] at hplace
    exact ⟨bucket, o, ho, hplace ▸ List.prefix_refl _⟩

/-- The tree without a payload and the directories that this leaves empty. -/
def cleared (t : FileTree) (base : Location) (bucket : BucketId) (id : ObjectId) : FileTree :=
  (t.erase (payloadFile base bucket id)).removeEmpty (bucketRoot base bucket) 2
    (shardDir base bucket id)

/-- A directory that stays when a payload goes leads to another one. -/
theorem Tidy.exists_other (h : Tidy base t m) (hfiled : Filed base t m) {data : Bytes}
    (hfile : t.find? (payloadFile base bucket id) = some (.file data))
    (hk : k <+: shardNames bucket id) (hlong : 2 ≤ k.length)
    (hstays : (cleared t base bucket id).find? (base ++ k) = some .dir) :
    ∃ bucket' o, m.Contains bucket' o ∧ ¬(bucket' = bucket ∧ o.info.id = id) ∧
      k <+: shardNames bucket' o.info.id := by
  have hne : shardNames bucket id ++ [id.text] ≠ [] := by simp
  have hlen := length_shardNames bucket id
  rw [cleared, shardDir_eq, bucketRoot] at hstays
  rw [payloadFile_eq] at hfile hstays
  have herased := hfiled.layered.erase_below hne (hfiled.layered.leaf_of_file hfile)
  have hdir : (t.erase (base ++ (shardNames bucket id ++ [id.text]))).find?
      (base ++ shardNames bucket id) = some .dir := by
    rw [FileTree.find?_erase_below hne, if_neg (by simp), hfiled.layered.parent_of_found hfile]
  have hbelow : [bucket.text] <+: k := by
    obtain _ | ⟨name, rest⟩ := k
    · simp at hlong
    · obtain rfl := (List.cons_prefix_cons.mp hk).1
      simp
  have hstop : k ≠ [bucket.text] := by
    rintro rfl
    simp at hlong
  obtain ⟨j, hkj, hoff, hfind⟩ :=
    herased.removeEmpty_stays hdir (by simp [hlen]) hbelow hstop hk hstays
  rw [FileTree.find?_erase_below hne] at hfind
  split at hfind
  · exact absurd rfl hfind
  · rename_i hother
    -- What stands off the way to the payload leads to one that is another.
    obtain ⟨bucket', o, ho, hj⟩ :=
      hfiled.exists_object h (Nat.le_trans hlong hkj.length_le) hfind
    refine ⟨bucket', o, ho, ?_, prefix_shardNames (hkj.trans hj) (hlen ▸ hk.length_le)⟩
    rintro ⟨rfl, hid⟩
    rw [hid, List.prefix_concat_iff] at hj
    exact hj.elim hother hoff

/-- When a payload goes, the directories go that only led to this one. -/
theorem Tidy.removeObject (h : Tidy base t m) (hfiled : Filed base t m)
    (ho : m.Contains bucket o) :
    Tidy base (cleared t base bucket o.info.id) (m.removeObject bucket o.info.id) := by
  have hfile := hfiled.payloads bucket o ho
  intro k hstays
  have hdir : t.find? (base ++ k) = some .dir := by
    have hne : shardNames bucket o.info.id ++ [o.info.id.text] ≠ [] := by simp
    rw [cleared, shardDir_eq, bucketRoot, payloadFile_eq] at hstays
    rw [payloadFile_eq] at hfile
    have herased := hfiled.layered.erase_below hne (hfiled.layered.leaf_of_file hfile)
    obtain hsame | ⟨hnone, -⟩ :=
      (herased.removeEmpty_below [bucket.text] 2 (shardNames bucket o.info.id)).2 k
    · rw [hsame, FileTree.find?_erase_below hne] at hstays
      split at hstays
      · cases hstays
      · exact hstays
    · rw [hnone] at hstays
      cases hstays
  by_cases hshort : k.length < 2
  · exact (h k hdir).of_short hshort fun _ hb => Memory.Store.hasBucket_onObjects.mpr hb
  have hlong : 2 ≤ k.length := Nat.not_lt.mp hshort
  obtain ⟨bucket', o', ho', hk⟩ := (h k hdir).exists_object hlong
  by_cases hgone : bucket' = bucket ∧ o'.info.id = o.info.id
  · rw [hgone.1, hgone.2] at hk
    obtain ⟨bucket', o', ho', hother, hk⟩ := h.exists_other hfiled hfile hk hlong hstays
    exact .shard (Memory.Store.contains_removeObject.mpr ⟨ho', hother⟩) hk
  · exact .shard (Memory.Store.contains_removeObject.mpr ⟨ho', hgone⟩) hk

-- ---------------------------------------------------------------------------
-- Calls on a tidy tree
-- ---------------------------------------------------------------------------

/-- The world holds the store, and no directory that this does not need. -/
structure Neat (w : World Store) (m : Memory.Store) : Prop where
  holds : Holds w m
  tidy : Tidy w.store.base w.host.files m

theorem Holds.deleteObject_eq (h : Holds w m) (ho : m.object? bucket id = some o) :
    ∃ db, Durable.deleteObject bucket id w =
      (.ok (), Durable.withFiles (withDb w db) (cleared w.host.files w.store.base bucket id)) := by
  obtain ⟨buckets, objects, hdb, hrec⟩ := h.recorded
  obtain ⟨objects', hdelete, -⟩ := hrec.deleteObject bucket id
  obtain ⟨hin, rfl, -⟩ := h.of_object? ho
  have hremove : w.host.files.removeFile (payloadFile w.store.base bucket o.info.id) =
      .ok (w.host.files.erase (payloadFile w.store.base bucket o.info.id)) := by
    have hfile := h.filed.payloads bucket o hin
    rw [payloadFile_eq] at hfile ⊢
    exact h.filed.layered.removeFile_below hfile
  refine ⟨.ofTables buckets objects', ?_⟩
  simp only [Durable.deleteObject, hdb, hdelete, ho, Option.isSome_some, withDb, hremove]
  rfl

theorem Holds.deleteBucket_eq (h : Holds w m) (hb : (m.bucket? bucket).isSome) :
    ∃ db, Durable.deleteBucket bucket w =
      (.ok (), Durable.withFiles (withDb w db)
        (w.host.files.prune (bucketRoot w.store.base bucket))) := by
  obtain ⟨buckets, objects, hdb, hrec⟩ := h.recorded
  obtain ⟨buckets', objects', hdelete, -⟩ := hrec.deleteBucket bucket
  have hremove : w.host.files.removeDirs (bucketRoot w.store.base bucket) =
      .ok (w.host.files.prune (bucketRoot w.store.base bucket)) :=
    h.filed.layered.removeDirs_below (h.filed.roots bucket (Memory.Store.bucket?_isSome_iff.mp hb))
  refine ⟨.ofTables buckets' objects', ?_⟩
  simp only [Durable.deleteBucket, hdb, hdelete, hb, hremove]

theorem createBucket_left (header : BucketHeader) (bucket : BucketId) (w : World Store) :
    ∃ db, (createBucket header bucket w).2 = withFiles (withDb w db)
      (w.host.files.makeDirs (bucketRoot w.store.base bucket)).2 := by
  unfold createBucket
  cases w.host.files.makeDirs (bucketRoot w.store.base bucket) with
  | mk made files =>
    cases made with
    | error cause => exact ⟨w.store.db, rfl⟩
    | ok _ =>
      simp only
      split
      · exact ⟨w.store.db, rfl⟩
      · rename_i db _
        exact ⟨db, rfl⟩

/-- A complete upload leaves no other directories than those of its object. -/
theorem Holds.upload_left (h : Holds w m) (header : ObjectHeader) {payload : PayloadStream}
    {chunks : List Bytes} (hdrain : payload.drain = .complete chunks)
    (hb : (m.bucket? header.bucket).isSome) (hd : (w.host.ids.draw .object).2.Distinct) :
    ∃ db files, (upload header payload w).2 = Durable.withFiles (withDb (begun w) db) files ∧
      ∀ k, files.find? (w.store.base ++ k) = some .dir →
        k <+: shardNames header.bucket (w.host.draw .object).1 ∨
          w.host.files.find? (w.store.base ++ k) = some .dir := by
  have hanswer := (h.upload_complete header hdrain hb hd).1
  obtain ⟨files, hmade, hupload, hdir, hfiled⟩ := h.upload_begun header payload hb
  have hwrite := hfiled.writeFile hdir chunks.flatten
  have hlen := length_shardNames header.bucket (w.host.draw .object).1
  rw [shardDir_eq] at hmade hdir
  obtain ⟨files', hrename, -, hview⟩ := hfiled.layered.rename_written hdir (by omega)
    (".tmp-" ++ (w.host.draw .object).1.text) (w.host.draw .object).1.text chunks.flatten
  rw [← uploadFile_eq, ← payloadFile_eq] at hrename
  rw [hupload, finish, hdrain] at hanswer ⊢
  simp only [record, begun, hwrite, hrename] at hanswer ⊢
  -- The row is accepted, for the upload succeeds.
  cases hinsert : w.store.db.insertObject
      (objectRow header (w.host.draw .object).1 chunks.flatten) with
  | error cause =>
    rw [hinsert] at hanswer
    cases hanswer
  | ok db =>
    refine ⟨db, files', rfl, fun k hstays => ?_⟩
    rw [hview] at hstays
    split at hstays
    · cases hstays
    · split at hstays
      · cases hstays
      · rw [h.filed.find?_makeDirs (by omega) hmade] at hstays
        split at hstays
        · exact .inl ‹_›
        · exact .inr hstays

/-- The deletion of an object that is there. -/
theorem Neat.removeObject (h : Neat w m) (ho : m.object? bucket id = some o) :
    ∃ db, Durable.deleteObject bucket id w =
        (.ok (), Durable.withFiles (withDb w db)
          (cleared w.host.files w.store.base bucket id)) ∧
      Neat (Durable.withFiles (withDb w db) (cleared w.host.files w.store.base bucket id))
        (m.removeObject bucket id) := by
  have hdelete := h.holds.deleteObject bucket id
  simp only [ho] at hdelete
  obtain ⟨w', hdelete, hholds, -⟩ := hdelete
  obtain ⟨db, hleft⟩ := h.holds.deleteObject_eq ho
  obtain ⟨hin, rfl, -⟩ := h.holds.of_object? ho
  obtain rfl : w' = _ := congrArg Prod.snd (hdelete.symm.trans hleft)
  exact ⟨db, hdelete, hholds, h.tidy.removeObject h.holds.filed hin⟩

theorem Neat.deleteObject (h : Neat w m) (bucket : BucketId) (id : ObjectId) :
    ∃ m', Neat (Durable.deleteObject bucket id w).2 m' := by
  cases ho : m.object? bucket id with
  | none =>
    have hdelete := h.holds.deleteObject bucket id
    simp only [ho] at hdelete
    rw [hdelete]
    exact ⟨m, h⟩
  | some o =>
    obtain ⟨db, hdelete, hneat⟩ := h.removeObject ho
    rw [hdelete]
    exact ⟨_, hneat⟩

theorem Neat.deleteBucket (h : Neat w m) (bucket : BucketId) :
    ∃ m', Neat (Durable.deleteBucket bucket w).2 m' := by
  have hdelete := h.holds.deleteBucket bucket
  cases hb : m.bucket? bucket with
  | none =>
    simp only [hb] at hdelete
    rw [hdelete]
    exact ⟨m, h⟩
  | some b =>
    simp only [hb] at hdelete
    obtain ⟨w', hdelete, hholds, -⟩ := hdelete
    have hthere : (m.bucket? bucket).isSome := by simp [hb]
    obtain ⟨db, hleft⟩ := h.holds.deleteBucket_eq hthere
    obtain rfl : w' = _ := congrArg Prod.snd (hdelete.symm.trans hleft)
    rw [hdelete]
    exact ⟨_, hholds, h.tidy.removeBucket bucket⟩

theorem Neat.draw (h : Neat w m) (kind : IdKind) :
    Neat { w with host := (w.host.draw kind).2 } m :=
  ⟨h.holds.draw kind, h.tidy⟩

theorem Neat.createBucket (h : Neat w m) (header : BucketHeader)
    (hissued : w.host.ids.Issued bucket) (hnew : ∀ b ∈ m.buckets, b.info.id ≠ bucket) :
    ∃ m', Neat (Durable.createBucket header bucket w).2 m' := by
  obtain ⟨w', hcreate, hholds, -⟩ := h.holds.createBucket header hissued hnew
  obtain ⟨db, hleft⟩ := createBucket_left header bucket w
  obtain ⟨files, hmade, -⟩ := h.holds.makeBucketRoot bucket
  rw [hcreate] at hleft ⊢
  obtain rfl : w' = _ := hleft
  refine ⟨_, hholds, h.tidy.addBucket fun k hdir => ?_⟩
  simp only [Durable.withFiles, hmade] at hdir
  rw [h.holds.filed.find?_makeDirs (by simp) hmade] at hdir
  split at hdir
  · exact .inl ‹_›
  · exact .inr hdir

theorem Neat.upload (h : Neat w m) (header : ObjectHeader) (payload : PayloadStream)
    (hanswer : (∃ id, (Durable.upload header payload w).1 = some (.ok id)) ∨
      (Durable.upload header payload w).1 = some (.error .notFound))
    (hd : (Durable.upload header payload w).2.host.ids.Distinct) :
    ∃ m', Neat (Durable.upload header payload w).2 m' := by
  have hids := h.holds.upload_ids header payload
  cases hb : m.bucket? header.bucket with
  | none =>
    rw [h.holds.upload_refused header payload hb]
    exact ⟨m, h⟩
  | some b =>
    have hthere : (m.bucket? header.bucket).isSome := by simp [hb]
    obtain ⟨files, -, hupload, -⟩ := h.holds.upload_begun header payload hthere
    rw [if_pos hthere] at hids
    rw [hids] at hd
    cases hdrain : payload.drain with
    | failed cause => simp [hupload, finish, hdrain] at hanswer
    | waiting chunks => simp [hupload, finish, hdrain] at hanswer
    | complete chunks =>
      have hholds := (h.holds.upload_complete header hdrain hthere hd).2
      obtain ⟨db, files, hleft, hdirs⟩ := h.holds.upload_left header hdrain hthere hd
      rw [hleft] at hholds ⊢
      exact ⟨_, hholds, h.tidy.addObject (Memory.Store.bucket?_isSome_iff.mp hthere) hdirs⟩

/-- A call that is answered with success, or that nothing was found, leaves no directory
without a use. -/
theorem Neat.after (h : Neat w m) (c : Command)
    (hanswer : (∃ a, (call c w).answer = some (.ok a)) ∨
      (call c w).answer = some (.error .notFound))
    (hd : (call c w).after.host.ids.Distinct) : ∃ m', Neat (call c w).after m' := by
  cases c with
  | deleteObject bucket id => exact h.deleteObject bucket id
  | deleteBucket bucket => exact h.deleteBucket bucket
  | putBucket header =>
    have hids : (call (.putBucket header) w).after.host.ids = (w.host.ids.draw .bucket).2 :=
      (h.holds.call_complete (c := .putBucket header) trivial).1
    rw [hids] at hd
    exact (h.draw .bucket).createBucket header (IdSupply.issued_draw w.host.ids .bucket)
      fun b hb => (h.holds.sound.issued b hb).ne_draw hd
  | putObject header payload => exact h.upload header payload hanswer hd
  | _ => exact ⟨m, h⟩

-- ---------------------------------------------------------------------------
-- Histories
-- ---------------------------------------------------------------------------

theorem Neat.settle (h : Neat w m) (ctx : Context) (c : Command)
    (hsmooth : Deed.Smooth ⟨c, (ctx.settle w (call c w)).1⟩)
    (hd : (ctx.settle w (call c w)).2.host.ids.Distinct) :
    ∃ m', Neat (ctx.settle w (call c w)).2 m' := by
  cases hmutating : c.isMutating with
  | false =>
    have hsame : (ctx.settle w (call c w)).2 = w :=
      Config.BackendKind.onlyCounted_settle .sqlite ctx w hmutating
    rw [hsame]
    exact ⟨m, h⟩
  | true =>
    -- A call that was given up has come to neither.
    have hsmooth := hsmooth hmutating
    have houtcome := ctx.settle_outcome w (call c w)
    generalize ctx.settle w (call c w) = r at houtcome hsmooth hd ⊢
    cases houtcome with
    | answered hanswer => exact h.after c (by simpa [hanswer] using hsmooth) hd
    | unmade => simp at hsmooth
    | gaveUp _ hcause => obtain rfl | rfl := hcause <;> simp at hsmooth
    | unanswered => simp at hsmooth

theorem Fresh.neat (h : Fresh w) : Neat w {} := by
  refine ⟨h.holds, fun k hdir => ?_⟩
  by_cases hk : k = []
  · exact hk ▸ .base
  · have hoccupied : w.host.files.isOccupied w.store.base = true :=
      FileTree.isOccupied_iff.mpr ⟨w.store.base ++ k, List.prefix_append _ _, by simpa using hk,
        by simp [hdir]⟩
    rw [h.empty] at hoccupied
    cases hoccupied

/-- A history in which every change succeeds, or finds nothing, leaves no directory without a
use. -/
theorem neat_of_run (hstart : Fresh start) (hrun : backend.Run start log w)
    (hsmooth : ∀ d ∈ log, d.Smooth) (hd : w.host.ids.Distinct) : ∃ m, Neat w m := by
  induction hrun with
  | start => exact ⟨_, hstart.neat⟩
  | @call log w _ ctx c ih =>
    obtain ⟨m, hm⟩ := ih (fun d hmem => hsmooth d (List.mem_append_left _ hmem))
      (hd.of_extends (faithful.settle_extends ctx w c))
    exact hm.settle ctx c (hsmooth _ List.mem_concat_self) hd

end Durable
end ObjectGateway
