import ObjectGateway.Proofs.Durable.Store
/-!
# Rows and files never drift apart

Whatever calls a durable store has served, and however uploads and requests have ended,
every object row has its payload, every file is the payload of one row, and every bucket
row has its directory. So no read ever finds the metadata or a payload damaged.
-/
namespace ObjectGateway.Durable

/-! ## Runs -/

/-- A world as a store finds it first: both tables are there without a row, the database
can be reached, and the base directory is there and empty. -/
structure Fresh (w : World Store) : Prop where
  tables : ∃ lastBucket lastObject, w.store.db = .ofTables ⟨[], lastBucket⟩ ⟨[], lastObject⟩
  base : w.host.files.lookup w.store.base = .ok .dir
  empty : w.host.files.isOccupied w.store.base = false

/-- A migration of a database without tables makes a world fresh. -/
theorem fresh_migrate {w : World Store} (hdb : w.store.db = {})
    (hbase : w.host.files.lookup w.store.base = .ok .dir)
    (hempty : w.host.files.isOccupied w.store.base = false) :
    Fresh (withDb w w.store.db.migrate.2) :=
  ⟨⟨0, 0, by rw [hdb]; rfl⟩, hbase, hempty⟩

/-- The worlds that migrations and calls lead to. A call may be made under any request,
so it may also be given up while it waits. One that its stream leaves waiting for ever is
abandoned sooner or later, because its time is over or because it is cancelled. -/
inductive Reachable : World Store → Prop
  | fresh {w : World Store} (h : Fresh w) : Reachable w
  | migrate {w : World Store} (h : Reachable w) : Reachable (withDb w w.store.db.migrate.2)
  | call {w : World Store} (h : Reachable w) (ctx : Context) (c : Command) :
      Reachable (ctx.settle w (call c w)).2
  | abandoned {w : World Store} (h : Reachable w) (c : Command)
      (hanswer : (call c w).answer = none) : Reachable (call c w).after

/-- The world that a call leaves when it is seen to its end. -/
def served (c : Command) (w : World Store) : World Store :=
  (call c w).after

theorem Reachable.served {w : World Store} (h : Reachable w) (c : Command) :
    Reachable (served c w) := by
  have hcall := h.call {} c
  rwa [Context.settle_live_after Context.live_default] at hcall

/-- Nothing cuts a call short by default. -/
theorem settle_served {c : Command} {w : World Store} {answer : Except BackendError c.Answer}
    (h : (call c w).answer = some answer) :
    Context.settle {} w (backend.call c w) = (answer, served c w) :=
  Context.settle_live Context.live_default h

/-! ## What holds in every world of a run -/

/-- The rows and the files below `base` belong together. -/
structure Consistent (files : FileTree) (base : Location) (buckets : List BucketRow)
    (objects : List ObjectRow) : Prop where
  owned : ∀ row ∈ objects, ∃ bucket ∈ buckets, bucket.id = row.bucket
  stored : ∀ row ∈ objects, ∃ data,
    files.lookup (payloadFile base row.bucket row.id) = .ok (.file data) ∧
      row.size = data.length ∧ row.checksum = Md5.hex data
  needed : ∀ l data, base.within l → files.find? l = some (.file data) →
    ∃! row, row ∈ objects ∧ l = payloadFile base row.bucket row.id
  roots : ∀ row ∈ buckets, files.lookup (bucketRoot base row.id) = .ok .dir
  distinctBuckets : (buckets.map BucketRow.id).Nodup
  distinctObjects : (objects.map ObjectRow.id).Nodup

/-- A failure that tells of damage: to metadata, to a payload or to the database. -/
def tellsDamage : BackendError → Bool
  | .corrupt _ | .io _ | .database _ => true
  | _ => false

/-- No read fails for damage, and none is short. -/
structure Undamaged (w : World Store) : Prop where
  heads : ∀ (ctx : Context) bucket id cause,
    (ctx.settle w (call (.headObject bucket id) w)).1 = .error cause → tellsDamage cause = false
  buckets : ∀ (ctx : Context) id cause,
    (ctx.settle w (call (.getBucket id) w)).1 = .error cause → tellsDamage cause = false
  ranges : ∀ (ctx : Context) bucket id offset length cause,
    (ctx.settle w (call (.getRange bucket id offset length) w)).1 = .error cause →
      tellsDamage cause = false
  lengths : ∀ (ctx : Context) bucket id offset length data,
    (ctx.settle w (call (.getRange bucket id offset length) w)).1 = .ok data →
      data.length = length

variable {w : World Store} {m : Memory.Store}

/-- A store holds nothing at first. -/
theorem Fresh.holds (h : Fresh w) : Holds w {} := by
  obtain ⟨lastBucket, lastObject, hdb⟩ := h.tables
  -- Below the base directory nothing is found, so there is no layer to check.
  have hempty : ∀ k, k ≠ [] → w.host.files.find? (w.store.base ++ k) = none := by
    intro k hk
    by_contra hfind
    have hoccupied := FileTree.isOccupied_iff.mpr
      ⟨w.store.base ++ k, List.prefix_append _ _, by simpa using hk, hfind⟩
    simp [h.empty] at hoccupied
  have hbase := FileTree.find?_of_lookup h.base
  have hlayered : w.host.files.Layered w.store.base 4 :=
    { above := fun hl => FileTree.lookup_eq_dir_iff.mp h.base _ hl
      parent := fun hfind => absurd (hempty _ (by simp)) hfind
      dirs := by
        intro k hfind
        by_cases hk : k = []
        · simp [hk]
        · simp [hempty k hk] at hfind
      files := by
        intro k data hfind
        by_cases hk : k = []
        · simp [hk, hbase] at hfind
        · simp [hempty k hk] at hfind }
  refine ⟨⟨rfl, rfl⟩, ⟨by simp, by simp, by simp⟩, ⟨_, _, hdb, ?_⟩, hlayered, ?_, ?_, ?_⟩
  · constructor <;> simp
  · rintro bucket ⟨b, hb, -⟩
    cases hb
  · rintro bucket o ⟨b, hb, -⟩
    cases hb
  · intro k data hfind
    by_cases hk : k = []
    · simp [hk, hbase] at hfind
    · simp [hempty k hk] at hfind

/-- Tables that are there are not made anew. -/
theorem Holds.migrate (h : Holds w m) : Holds (withDb w w.store.db.migrate.2) m := by
  obtain ⟨buckets, objects, hdb, hrec⟩ := h.recorded
  have hsame : w.store.db.migrate.2 = .ofTables buckets objects := by
    rw [hdb]
    rfl
  exact ⟨h.healthy, h.sound, ⟨buckets, objects, hsame, hrec⟩, h.filed⟩

/-- One call, however it goes. -/
theorem Holds.settle (h : Holds w m) (ctx : Context) (c : Command)
    (hd : (ctx.settle w (call c w)).2.host.ids.Distinct) :
    ∃ m', Holds (ctx.settle w (call c w)).2 m' := by
  by_cases hc : c.Complete
  · obtain hserved | hrefused := faithful.settle_complete h ctx hc hd
    · exact ⟨_, hserved.holds⟩
    · exact ⟨_, hrefused.holds⟩
  · exact ⟨_, (faithful.settle_incomplete h ctx hc).holds⟩

/-- One call that is seen to its end. -/
theorem Holds.served (h : Holds w m) (c : Command) (hd : (served c w).host.ids.Distinct) :
    ∃ m', Holds (served c w) m' := by
  rw [Durable.served, ← Context.settle_live_after Context.live_default (s := w)] at hd ⊢
  exact h.settle {} c hd

/-- One upload that is complete. -/
theorem Holds.served_putObject (h : Holds w m) (header : ObjectHeader) {payload : PayloadStream}
    {chunks : List Bytes} (hdrain : payload.drain = .complete chunks)
    (hb : (m.bucket? header.bucket).isSome) (hd : (w.host.ids.draw .object).2.Distinct) :
    (call (.putObject header payload) w).answer = some (.ok (w.host.draw .object).1) ∧
      Holds (Durable.served (.putObject header payload) w)
        (m.addObject (.ofHeader (w.host.draw .object).1 header chunks.flatten)) :=
  h.upload_complete header hdrain hb hd

/-- Every world of a run holds some store. -/
theorem Reachable.holds (h : Reachable w) (hd : w.host.ids.Distinct) : ∃ m, Holds w m := by
  -- Keys that differ at the end of a run have differed all along, for keys are only drawn.
  induction h with
  | fresh h => exact ⟨_, h.holds⟩
  | migrate _ ih =>
    obtain ⟨m, hm⟩ := ih hd
    exact ⟨m, hm.migrate⟩
  | @call w _ ctx c ih =>
    obtain ⟨m, hm⟩ := ih (hd.of_extends (faithful.settle_extends ctx w c))
    exact hm.settle ctx c hd
  | @abandoned w _ c _ ih =>
    obtain ⟨m, hm⟩ := ih (hd.of_extends (faithful.extends_after w c))
    exact hm.served c hd

theorem Holds.consistent (h : Holds w m) :
    ∃ buckets objects, w.store.db.bucketTable = .ok buckets ∧
      w.store.db.objectTable = .ok objects ∧
      Consistent w.host.files w.store.base buckets.rows objects.rows := by
  obtain ⟨buckets, objects, hdb, hrec⟩ := h.recorded
  refine ⟨buckets, objects, by rw [hdb]; rfl, by rw [hdb]; rfl, ?_⟩
  have hrow : ∀ row ∈ objects.rows, ∃ o, m.Contains row.bucket o ∧ row.id = o.info.id ∧
      row.unnumbered = storedRow o := by
    intro row hrow
    obtain ⟨b, hb, hid, o, ho, hsame⟩ := hrec.object_of_row hrow
    exact ⟨o, ⟨b, hb, hid, ho⟩, congrArg ObjectRow.id hsame, hsame⟩
  constructor
  case owned =>
    intro row hmem
    obtain ⟨o, ho, -⟩ := hrow row hmem
    have hany := hrec.any_bucket row.bucket
    rw [Memory.Store.bucket?_isSome_iff.mpr ho.hasBucket] at hany
    simpa using hany
  case stored =>
    intro row hmem
    obtain ⟨o, ho, hid, hsame⟩ := hrow row hmem
    refine ⟨o.payload, ?_, congrArg ObjectRow.size hsame, congrArg ObjectRow.checksum hsame⟩
    have hfile := h.filed.payloads row.bucket o ho
    rw [hid, payloadFile_eq]
    rw [payloadFile_eq] at hfile
    exact h.filed.layered.lookup_found hfile
  case needed =>
    intro l data hwithin hfile
    obtain ⟨k, rfl⟩ := Location.within_iff.mp hwithin
    -- A file is the payload of some object. Two rows for its place would have one key.
    obtain ⟨bucket, o, ⟨b, hb, rfl, ho⟩, hplace⟩ := h.filed.owned k data hfile
    obtain ⟨row, hmem, hbucket, hsame⟩ := hrec.row_of_object hb ho
    have hid : row.id = o.info.id := congrArg ObjectRow.id hsame
    refine ⟨row, ⟨hmem, by rw [hplace, hbucket, hid]⟩, ?_⟩
    rintro other ⟨hother, hplace'⟩
    have hids := (payloadFile_inj (hplace'.symm.trans hplace)).2
    exact List.inj_on_of_nodup_map hrec.distinct hother hmem (hids.trans hid.symm)
  case roots =>
    intro row hmem
    obtain ⟨b, hb, hsame⟩ := hrec.bucket_of_row hmem
    have hid : row.id = b.info.id := congrArg BucketRow.id hsame
    rw [hid]
    exact h.filed.layered.lookup_found (h.filed.roots b.info.id ⟨b, hb, rfl⟩)
  case distinctBuckets => exact hrec.map_bucket_id ▸ h.sound.distinct
  case distinctObjects => exact hrec.distinct

/-- A failure to give up tells of no damage. -/
theorem tellsDamage_of_settle {α : Type} {ctx : Context} {call : Call (World Store) α}
    {cause : BackendError} (h : (ctx.settle w call).1 = .error cause)
    (hanswer : ∀ cause, call.answer = some (.error cause) → tellsDamage cause = false) :
    tellsDamage cause = false := by
  obtain h | rfl | rfl := Context.answer_of_settle_error h
  · exact hanswer cause h
  · rfl
  · rfl

theorem Holds.undamaged (h : Holds w m) : Undamaged w where
  heads ctx bucket id cause hfail := by
    refine tellsDamage_of_settle hfail ?_
    intro cause hanswer
    have hhead : m.head bucket id = .error cause := by
      rw [← h.head]
      exact Option.some.inj hanswer
    simp only [Memory.Store.head, h.healthy.2] at hhead
    -- The only failure of the store in memory is that nothing is found.
    cases ho : m.object? bucket id <;> simp [ho] at hhead
    simp [← hhead, tellsDamage]
  buckets ctx id cause hfail := by
    refine tellsDamage_of_settle hfail ?_
    intro cause hanswer
    have hget := (h.getBucket id).symm.trans (Option.some.inj hanswer)
    cases hb : m.bucket? id <;> simp [hb] at hget
    simp [← hget, tellsDamage]
  ranges ctx bucket id offset length cause hfail := by
    refine tellsDamage_of_settle hfail ?_
    intro cause hanswer
    have hrange := (h.range bucket id offset length).symm.trans (Option.some.inj hanswer)
    simp only [Memory.Store.range] at hrange
    cases ho : m.object? bucket id with
    | none =>
      simp [ho] at hrange
      simp [← hrange, tellsDamage]
    | some o =>
      simp only [ho] at hrange
      split at hrange
      · cases hrange
      · cases hrange
        rfl
  lengths ctx bucket id offset length data hread := by
    have hrange := (h.range bucket id offset length).symm.trans
      (Option.some.inj (Context.answer_of_settle_ok hread))
    simp only [Memory.Store.range] at hrange
    cases ho : m.object? bucket id with
    | none => simp [ho] at hrange
    | some o =>
      simp only [ho] at hrange
      split at hrange
      · cases hrange
        simp [Bytes.slice]
        omega
      · cases hrange

/-- In every world of a run in which no key was handed out twice, rows and files belong
together, and no read finds damage. -/
theorem reachable_consistent (h : Reachable w) (hd : w.host.ids.Distinct) :
    (∃ buckets objects, w.store.db.bucketTable = .ok buckets ∧
      w.store.db.objectTable = .ok objects ∧
      Consistent w.host.files w.store.base buckets.rows objects.rows) ∧ Undamaged w := by
  obtain ⟨m, hm⟩ := h.holds hd
  exact ⟨hm.consistent, hm.undamaged⟩

/-- A world with an empty directory for payloads and a database without tables, whose host
counts its keys. -/
def blankWorld : World Store where
  host := { files := ⟨[(["payloads"], .dir)]⟩, ids := ⟨BitVec.ofNat 128, 0⟩ }
  store := { db := {}, base := ["payloads"] }

/-- That world once the tables are there. -/
def emptyWorld : World Store :=
  withDb blankWorld blankWorld.store.db.migrate.2

theorem fresh_emptyWorld : Fresh emptyWorld := fresh_migrate rfl rfl rfl

def bucketWorld : World Store :=
  served (.putBucket { owner := Id.nil }) emptyWorld

theorem reachable_bucketWorld : Reachable bucketWorld :=
  (Reachable.fresh fresh_emptyWorld).served _

/-- One key has been drawn, and it is that of the bucket. -/
theorem bucketWorld_holds : bucketWorld.host.ids = ⟨BitVec.ofNat 128, 1⟩ ∧
    ∃ m, Holds bucketWorld m ∧ (m.bucket? ⟨0⟩).isSome := by
  have hbucket := fresh_emptyWorld.holds.call_complete (c := .putBucket { owner := Id.nil }) trivial
  exact ⟨hbucket.1, _, (hbucket.2 (IdSupply.distinct_counting (n := 1) (by decide))).2, rfl⟩

/-- A world with one bucket and one object in it, uploaded in two chunks. -/
def objectWorld : World Store :=
  served (.putObject { bucket := ⟨0⟩, owner := Id.nil } (.ofChunks [[1, 2], [3]])) bucketWorld

/-- The first call draws one key and the second one another. -/
theorem distinct_objectWorld : objectWorld.host.ids.Distinct := by
  obtain ⟨hids, m, hheld, hthere⟩ := bucketWorld_holds
  rw [objectWorld, served, hheld.call_putObject_ids _ _ hthere, hids]
  exact IdSupply.distinct_counting (n := 2) (by decide)

theorem objectWorld_consistent :
    Reachable objectWorld ∧ objectWorld.host.ids.Distinct ∧
      (∃ buckets objects, objectWorld.store.db.bucketTable = .ok buckets ∧
        objectWorld.store.db.objectTable = .ok objects ∧
        Consistent objectWorld.host.files objectWorld.store.base buckets.rows objects.rows) ∧
      Undamaged objectWorld := by
  have hobject : Reachable objectWorld := reachable_bucketWorld.served _
  have hd := distinct_objectWorld
  exact ⟨hobject, hd, reachable_consistent hobject hd⟩

/-- The upload is answered, and its object is all that the world holds. -/
theorem objectWorld_holds :
    (call (.putObject { bucket := ⟨0⟩, owner := Id.nil } (.ofChunks [[1, 2], [3]]))
      bucketWorld).answer = some (.ok ⟨1⟩) ∧
    ∃ m, Holds objectWorld m ∧
      ∀ bucket o, m.Contains bucket o ↔
        bucket = ⟨0⟩ ∧ o = .ofHeader ⟨1⟩ { bucket := ⟨0⟩, owner := Id.nil } [1, 2, 3] := by
  have hbucket := fresh_emptyWorld.holds.call_complete (c := .putBucket { owner := Id.nil }) trivial
  have hheld : Holds bucketWorld _ :=
    (hbucket.2 (IdSupply.distinct_counting (n := 1) (by decide))).2
  have hd : (bucketWorld.host.ids.draw .object).2.Distinct := by
    rw [bucketWorld_holds.1]
    exact IdSupply.distinct_counting (n := 2) (by decide)
  have hid : (bucketWorld.host.draw .object).1 = ⟨1⟩ := by
    rw [Host.draw, bucketWorld_holds.1]
    rfl
  obtain ⟨hanswer, hholds⟩ := hheld.served_putObject { bucket := ⟨0⟩, owner := Id.nil }
    (PayloadStream.drain_ofChunks [[1, 2], [3]]) rfl hd
  rw [hid] at hanswer hholds
  refine ⟨hanswer, _, hholds, fun bucket o => ?_⟩
  rw [Memory.Store.contains_addObject]
  constructor
  · rintro (⟨b, hb, -, ho⟩ | ⟨rfl, rfl, -⟩)
    · -- There was no object before.
      obtain rfl := List.mem_singleton.mp hb
      cases ho
    · exact ⟨rfl, rfl⟩
  · rintro ⟨rfl, rfl⟩
    exact .inr ⟨rfl, rfl, _, List.mem_singleton_self _, rfl⟩

end ObjectGateway.Durable
