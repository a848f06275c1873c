import ObjectGateway.Proofs.Backend.Faithful
import ObjectGateway.Proofs.Durable.Payloads
import ObjectGateway.Proofs.Durable.Statements
/-!
# The durable store is faithful

A durable store holds what its tables record and its files hold. Every call answers
what the store in memory answers, and leaves what that leaves; an upload that does not
get to its end, and a call that is given up, leave what was held.
-/
namespace ObjectGateway.Durable

open Memory (StoredBucket StoredObject)

/-- The tables record the store `m`, and the files below the base directory are its
payloads. -/
structure Holds (w : World Store) (m : Memory.Store) : Prop where
  healthy : m.Healthy
  sound : m.Sound w.host.ids
  recorded : ∃ buckets objects, w.store.db = .ofTables buckets objects ∧
    Recorded buckets.rows objects.rows m
  filed : Filed w.store.base w.host.files m

variable {w : World Store} {m : Memory.Store} {bucket : BucketId} {id : ObjectId}

/-! ## Looking up -/

/-- What is found is stored where it is found, and is of the recorded size. -/
theorem Holds.of_object? (h : Holds w m) {o : StoredObject} (ho : m.object? bucket id = some o) :
    m.Contains bucket o ∧ o.info.id = id ∧ o.info.size = o.payload.length := by
  obtain ⟨b, hb, hfind⟩ := Memory.Store.object?_eq_some ho
  obtain ⟨hmem, hid⟩ := Memory.Store.bucket?_eq_some hb
  obtain ⟨hobject, hoid⟩ := Memory.StoredBucket.find?_eq_some hfind
  exact ⟨⟨b, hmem, hid, hobject⟩, hoid, (h.sound.inside b hmem).sized o hobject⟩

theorem Holds.head (h : Holds w m) (bucket : BucketId) (id : ObjectId) :
    w.store.head bucket id = m.head bucket id := by
  obtain ⟨buckets, objects, hdb, hrec⟩ := h.recorded
  have hfound := hrec.found_object bucket id
  simp only [Store.head, Memory.Store.head, hdb, h.healthy.2]
  cases ho : m.object? bucket id with
  | none =>
    simp only [ho] at hfound
    rw [hfound]
    rfl
  | some o =>
    simp only [ho] at hfound
    obtain ⟨row, hrow, hsame⟩ := hfound
    rw [hrow]
    exact ObjectRow.info_of_unnumbered hsame (h.of_object? ho).2.2

theorem Holds.range (h : Holds w m) (bucket : BucketId) (id : ObjectId) (offset length : Nat) :
    range w bucket id offset length = m.range bucket id offset length := by
  obtain ⟨buckets, objects, hdb, hrec⟩ := h.recorded
  have hfound := hrec.found_object bucket id
  simp only [Durable.range, Memory.Store.range, hdb]
  cases ho : m.object? bucket id with
  | none =>
    simp only [ho] at hfound
    rw [hfound]
    rfl
  | some o =>
    simp only [ho] at hfound
    obtain ⟨row, hrow, hsame⟩ := hfound
    obtain ⟨hin, hid, -⟩ := h.of_object? ho
    -- The recorded size says what is out of range, and the file is just as long.
    have hsize : row.size.toNat = o.payload.length := by
      have := congrArg ObjectRow.size hsame
      simp only [ObjectRow.unnumbered, storedRow, objectRow] at this
      simp [this]
    have hfile := h.filed.payloads bucket o hin
    rw [hid, payloadFile_eq] at hfile
    have hread := h.filed.layered.readFile_below hfile
    rw [← payloadFile_eq] at hread
    rw [hrow]
    simp only [bind, Except.bind, hsize]
    by_cases hfit : offset + length ≤ o.payload.length
    · rw [if_neg (Nat.not_lt.mpr hfit), if_pos hfit]
      -- An empty range is answered without a look at the file.
      by_cases hzero : length = 0
      · simp [hzero, Bytes.slice, pure, Except.pure]
      · simp only [pure, Except.pure, if_neg hzero, hread, if_neg (Nat.not_lt.mpr hfit)]
    · rw [if_pos (Nat.not_le.mp hfit), if_neg hfit]
      rfl

theorem Holds.search (h : Holds w m) (bucket : BucketId) (filters : List SearchFilter) :
    w.store.search bucket filters = m.search bucket filters := by
  obtain ⟨buckets, objects, hdb, hrec⟩ := h.recorded
  have hfound := hrec.found_bucket bucket
  simp only [Store.search, Memory.Store.search, hdb]
  cases hb : m.bucket? bucket with
  | none =>
    simp only [hb] at hfound
    rw [hfound]
    rfl
  | some b =>
    simp only [hb] at hfound
    obtain ⟨row, hrow, -⟩ := hfound
    obtain ⟨hmem, rfl⟩ := Memory.Store.bucket?_eq_some hb
    rw [hrow]
    simp only [bind, Except.bind, hrec.search hmem filters, ofDatabase]

theorem Holds.getBucket (h : Holds w m) (bucket : BucketId) :
    found (w.store.db.findBucket bucket) >>= BucketRow.info =
      match m.bucket? bucket with
      | some b => .ok b.info
      | none => .error .notFound := by
  obtain ⟨buckets, objects, hdb, hrec⟩ := h.recorded
  have hfound := hrec.found_bucket bucket
  rw [hdb]
  cases hb : m.bucket? bucket with
  | none =>
    simp only [hb] at hfound
    rw [hfound]
    rfl
  | some b =>
    simp only [hb] at hfound
    obtain ⟨row, hrow, hsame⟩ := hfound
    rw [hrow]
    exact BucketRow.info_of_unnumbered hsame

theorem Holds.listBuckets (h : Holds w m) (owner : OwnerId) :
    ofDatabase (w.store.db.listBuckets owner) =
      .ok ((m.buckets.filter fun b => b.info.owner == owner).map (·.info.id)) := by
  obtain ⟨buckets, objects, hdb, hrec⟩ := h.recorded
  rw [hdb, hrec.listBuckets owner]
  rfl

/-! ## Changing -/

/-- Only the files have changed, and what they are the payloads of has not. -/
theorem Holds.withFiles (h : Holds w m) {files : FileTree}
    (hfiled : Filed w.store.base files m) : Holds (withFiles w files) m :=
  { h with filed := hfiled }

/-- A host that has drawn a key holds what it held. -/
theorem Holds.draw (h : Holds w m) (kind : IdKind) :
    Holds { w with host := (w.host.draw kind).2 } m where
  healthy := h.healthy
  sound := h.sound.of_extends (IdSupply.extends_draw w.host.ids kind)
  recorded := h.recorded
  filed := h.filed

theorem Holds.deleteObject (h : Holds w m) (bucket : BucketId) (id : ObjectId) :
    match m.object? bucket id with
    | some _ => ∃ w', deleteObject bucket id w = (.ok (), w') ∧
        Holds w' (m.removeObject bucket id) ∧ w'.host.ids = w.host.ids
    | none => Durable.deleteObject bucket id w = (.error .notFound, w) := by
  obtain ⟨buckets, objects, hdb, hrec⟩ := h.recorded
  obtain ⟨objects', hdelete, hrec'⟩ := hrec.deleteObject bucket id
  simp only [Durable.deleteObject, hdb, hdelete]
  cases ho : m.object? bucket id with
  | none => rfl
  | some o =>
    obtain ⟨hin, rfl, -⟩ := h.of_object? ho
    -- The row goes first, then the payload, then the directories that this leaves empty.
    obtain ⟨files, hremove, hfiled⟩ := h.filed.removePayload hin
    have htidy := hfiled.removeEmpty bucket 2 (shardNames bucket o.info.id)
    rw [← shardDir_eq] at htidy
    simp only [Option.isSome_some, withDb, hremove]
    exact ⟨_, rfl, ⟨h.healthy, h.sound.removeObject _ _, ⟨_, _, rfl, hrec'⟩, htidy⟩, rfl⟩

theorem Holds.deleteBucket (h : Holds w m) (bucket : BucketId) :
    match m.bucket? bucket with
    | some _ => ∃ w', deleteBucket bucket w = (.ok (), w') ∧
        Holds w' (m.removeBucket bucket) ∧ w'.host.ids = w.host.ids
    | none => Durable.deleteBucket bucket w = (.error .notFound, w) := by
  obtain ⟨buckets, objects, hdb, hrec⟩ := h.recorded
  obtain ⟨buckets', objects', hdelete, hrec'⟩ := hrec.deleteBucket bucket
  simp only [Durable.deleteBucket, hdb, hdelete]
  cases hb : m.bucket? bucket with
  | none => rfl
  | some b =>
    obtain ⟨hmem, hid⟩ := Memory.Store.bucket?_eq_some hb
    obtain ⟨files, hremove, hfiled⟩ := h.filed.removeBucket ⟨b, hmem, hid⟩
    simp only [Option.isSome_some, hremove]
    exact ⟨_, rfl, ⟨h.healthy, h.sound.removeBucket _, ⟨_, _, rfl, hrec'⟩, hfiled⟩, rfl⟩

/-- The directory of a bucket may be made before the bucket is. -/
theorem Holds.makeBucketRoot (h : Holds w m) (bucket : BucketId) :
    ∃ files, w.host.files.makeDirs (bucketRoot w.store.base bucket) = (.ok (), files) ∧
      files.find? (bucketRoot w.store.base bucket) = some .dir ∧ Filed w.store.base files m :=
  h.filed.makeDirs (k := [bucket.text]) (by simp)

/-- A bucket is created under a key that has just been handed out. -/
theorem Holds.createBucket (h : Holds w m) (header : BucketHeader)
    (hissued : w.host.ids.Issued bucket) (hnew : ∀ b ∈ m.buckets, b.info.id ≠ bucket) :
    ∃ w', createBucket header bucket w = (.ok bucket, w') ∧
      Holds w' (m.addBucket
        { info := ⟨bucket, header.owner, header.policy, header.acl, header.attributes⟩ }) ∧
      w'.host.ids = w.host.ids := by
  obtain ⟨buckets, objects, hdb, hrec⟩ := h.recorded
  obtain ⟨files, hmade, hdir, hfiled⟩ := h.makeBucketRoot bucket
  have hmissing : m.bucket? bucket = none := by
    rw [Memory.Store.bucket?, List.find?_eq_none]
    simpa using hnew
  obtain ⟨buckets', hinsert, hrec'⟩ := hrec.insertBucket
    ⟨bucket, header.owner, header.policy, header.acl, header.attributes⟩ hmissing
  simp only [bucketRow] at hinsert
  simp only [Durable.createBucket, hmade, Durable.withFiles, hdb, hinsert]
  exact ⟨_, rfl, ⟨h.healthy, h.sound.addBucket hissued hnew, ⟨_, _, rfl, hrec'⟩,
    hfiled.addBucket hdir⟩, rfl⟩

/-! ## Uploads -/

theorem record_ids (header : ObjectHeader) (id : ObjectId) (payload : Bytes) (files : FileTree)
    (w : World Store) : (record header id payload files w).2.host.ids = w.host.ids := by
  simp only [record]
  split
  · rfl
  · split
    · rfl
    · split <;> rfl

theorem upload_extends (header : ObjectHeader) (payload : PayloadStream) (w : World Store) :
    (upload header payload w).2.host.ids.Extends w.host.ids := by
  simp only [upload]
  cases found (w.store.db.findBucket header.bucket) with
  | error cause => exact .refl _
  | ok row =>
    have hdraw := IdSupply.extends_draw w.host.ids .object
    cases (w.host.draw .object).2.files.makeDirs
        (shardDir w.store.base header.bucket (w.host.draw .object).1) with
    | mk made files =>
      cases made with
      | error cause => exact hdraw
      | ok _ =>
        simp only
        cases files.writeFile (uploadFile w.store.base header.bucket (w.host.draw .object).1) [] with
        | error cause => exact hdraw
        | ok _ =>
          cases payload.drain with
          | failed cause => exact hdraw
          | waiting chunks => exact hdraw
          | complete chunks => exact (record_ids header _ _ files _).symm ▸ hdraw

/-- An upload to a bucket that is not there does nothing. -/
theorem Holds.upload_refused (h : Holds w m) (header : ObjectHeader) (payload : PayloadStream)
    (hb : m.bucket? header.bucket = none) :
    upload header payload w = (some (.error .notFound), w) := by
  obtain ⟨buckets, objects, hdb, hrec⟩ := h.recorded
  have hfound := hrec.found_bucket header.bucket
  simp only [hb] at hfound
  simp only [upload, hdb, hfound]

/-- The world in which an upload writes: a key has been drawn for it. -/
def begun (w : World Store) : World Store :=
  { w with host := (w.host.draw .object).2 }

/-- What an upload does with its stream once its directory has been made in `files`. -/
def finish (header : ObjectHeader) (payload : PayloadStream) (files : FileTree)
    (w : World Store) : Option (Except BackendError ObjectId) × World Store :=
  let id := (w.host.draw .object).1
  let left := Durable.withFiles (begun w) <|
    abandonUpload files (uploadFile w.store.base header.bucket id)
  match payload.drain with
  | .failed cause => (some (.error (.io cause)), left)
  | .waiting _ => (none, left)
  | .complete chunks =>
    let (answer, after) := record header id chunks.flatten files (begun w)
    (some answer, after)

/-- An upload to a bucket that is there gets as far as its stream does. -/
theorem Holds.upload_begun (h : Holds w m) (header : ObjectHeader) (payload : PayloadStream)
    (hb : (m.bucket? header.bucket).isSome) :
    ∃ files, w.host.files.makeDirs
        (shardDir w.store.base header.bucket (w.host.draw .object).1) = (.ok (), files) ∧
      upload header payload w = finish header payload files w ∧
      files.find? (shardDir w.store.base header.bucket (w.host.draw .object).1) = some .dir ∧
      Filed w.store.base files m := by
  obtain ⟨buckets, objects, hdb, hrec⟩ := h.recorded
  have hfound := hrec.found_bucket header.bucket
  obtain ⟨b, hb⟩ := Option.isSome_iff_exists.mp hb
  simp only [hb] at hfound
  obtain ⟨row, hrow, -⟩ := hfound
  obtain ⟨files, hmade, hdir, hfiled⟩ := h.filed.makeDirs
    (k := shardNames header.bucket (w.host.draw .object).1) (by simp [length_shardNames])
  rw [← shardDir_eq] at hmade hdir
  have hmade' : (w.host.draw .object).2.files.makeDirs
      (shardDir w.store.base header.bucket (w.host.draw .object).1) = (.ok (), files) := hmade
  refine ⟨files, hmade, ?_, hdir, hfiled⟩
  simp only [upload, hdb, hrow, hmade', hfiled.writeFile hdir]
  rfl

/-- An upload draws a key when its bucket is there, however it ends. -/
theorem Holds.upload_ids (h : Holds w m) (header : ObjectHeader) (payload : PayloadStream) :
    (upload header payload w).2.host.ids =
      if (m.bucket? header.bucket).isSome then (w.host.ids.draw .object).2 else w.host.ids := by
  cases hb : m.bucket? header.bucket with
  | none => rw [h.upload_refused header payload hb]; rfl
  | some b =>
    obtain ⟨files, -, hupload, -⟩ := h.upload_begun header payload (by simp [hb])
    rw [hupload, finish]
    cases payload.drain with
    | failed cause => rfl
    | waiting chunks => rfl
    | complete chunks => exact record_ids _ _ _ _ _

theorem Holds.call_putObject_ids (h : Holds w m) (header : ObjectHeader)
    (payload : PayloadStream) (hb : (m.bucket? header.bucket).isSome) :
    (call (.putObject header payload) w).after.host.ids = (w.host.ids.draw .object).2 :=
  (h.upload_ids header payload).trans (if_pos hb)

/-- An upload whose stream breaks off, or never ends, leaves what was held. -/
theorem Holds.upload_incomplete (h : Holds w m) (header : ObjectHeader) (payload : PayloadStream)
    (hpayload : ¬payload.Complete) :
    (∀ id, (upload header payload w).1 ≠ some (.ok id)) ∧ Holds (upload header payload w).2 m := by
  cases hb : m.bucket? header.bucket with
  | none =>
    rw [h.upload_refused header payload hb]
    exact ⟨by simp, h⟩
  | some b =>
    obtain ⟨files, -, hupload, hdir, hfiled⟩ := h.upload_begun header payload (by simp [hb])
    have hleft := (h.draw .object).withFiles (hfiled.abandonUpload hdir)
    rw [hupload, finish]
    cases hdrain : payload.drain with
    | failed cause => exact ⟨by simp, hleft⟩
    | waiting chunks => exact ⟨by simp, hleft⟩
    | complete chunks => exact absurd ⟨chunks, hdrain⟩ hpayload

/-- An upload whose stream ends stores one object under a key of its own. -/
theorem Holds.upload_complete (h : Holds w m) (header : ObjectHeader) {payload : PayloadStream}
    {chunks : List Bytes} (hdrain : payload.drain = .complete chunks)
    (hb : (m.bucket? header.bucket).isSome)
    (hd : (w.host.ids.draw .object).2.Distinct) :
    (upload header payload w).1 = some (.ok (w.host.draw .object).1) ∧
      Holds (upload header payload w).2
        (m.addObject (.ofHeader (w.host.draw .object).1 header chunks.flatten)) := by
  obtain ⟨buckets, objects, hdb, hrec⟩ := h.recorded
  obtain ⟨files, -, hupload, hdir, hfiled⟩ := h.upload_begun header payload hb
  -- The key that was drawn is that of no object: its place and its row are free.
  have hnew : ∀ bucket o, m.Contains bucket o → o.info.id ≠ (w.host.draw .object).1 := by
    rintro bucket o ⟨b, hmem, -, ho⟩
    exact h.sound.ne_draw hd hmem ho
  have hnewRow : ∀ row ∈ objects.rows, row.id ≠ (w.host.draw .object).1 := by
    intro row hrow
    obtain ⟨b, hmem, -, o, ho, hsame⟩ := hrec.object_of_row hrow
    have hid : row.id = o.info.id := congrArg ObjectRow.id hsame
    rw [hid]
    exact hnew _ o ⟨b, hmem, rfl, ho⟩
  obtain ⟨files', hrename, hfiled'⟩ :=
    hfiled.place (.ofHeader (w.host.draw .object).1 header chunks.flatten) hdir
      (Memory.Store.bucket?_isSome_iff.mp hb) hnew
  obtain ⟨objects', hinsert, hrec'⟩ :=
    hrec.insertObject (.ofHeader (w.host.draw .object).1 header chunks.flatten) hb hnewRow
  have hwrite := hfiled.writeFile hdir chunks.flatten
  have hrename' : (files.set (uploadFile w.store.base header.bucket (w.host.draw .object).1)
      (.file chunks.flatten)).rename
        (uploadFile w.store.base header.bucket (w.host.draw .object).1)
        (payloadFile w.store.base header.bucket (w.host.draw .object).1) = .ok files' := hrename
  have hinsert' : w.store.db.insertObject
      (objectRow header (w.host.draw .object).1 chunks.flatten) =
        .ok (.ofTables buckets objects') := hdb ▸ hinsert
  have hrecord : record header (w.host.draw .object).1 chunks.flatten files (begun w) =
      (.ok (w.host.draw .object).1,
        withDb (Durable.withFiles (begun w) files') (.ofTables buckets objects')) := by
    simp only [record, begun, hwrite, hrename', hinsert']
  rw [hupload, finish, hdrain]
  simp only [hrecord]
  exact ⟨trivial, h.healthy, h.sound.upload hd header chunks.flatten, ⟨_, _, rfl, hrec'⟩, hfiled'⟩

/-! ## The interface -/

/-- What the store in memory stores, the durable one may be read as: what else is
kept of the last upload does not matter. -/
theorem Holds.of_buckets (h : Holds w m) {m' : Memory.Store} (hhealthy : m'.Healthy)
    (hbuckets : m'.buckets = m.buckets) : Holds w m' := by
  obtain ⟨buckets, objects, hdb, hrec⟩ := h.recorded
  have hhas : ∀ bucket, m'.HasBucket bucket ↔ m.HasBucket bucket := by
    simp [Memory.Store.HasBucket, hbuckets]
  have hcontains : ∀ bucket o, m'.Contains bucket o ↔ m.Contains bucket o := by
    simp [Memory.Store.Contains, hbuckets]
  refine ⟨hhealthy, ⟨hbuckets ▸ h.sound.distinct, hbuckets ▸ h.sound.issued,
    hbuckets ▸ h.sound.inside⟩, ⟨buckets, objects, hdb, ?_⟩, ?_⟩
  · exact ⟨hbuckets ▸ hrec.buckets, hbuckets ▸ hrec.inside, hbuckets ▸ hrec.owned, hrec.distinct⟩
  · exact
      { layered := h.filed.layered
        roots := fun bucket hb => h.filed.roots bucket ((hhas bucket).mp hb)
        payloads := fun bucket o ho => h.filed.payloads bucket o ((hcontains bucket o).mp ho)
        owned := by simpa only [hcontains] using h.filed.owned }

/-- Call by call, the same keys are drawn, the same is answered and the same is left. -/
theorem Holds.call_complete (h : Holds w m) {c : Command} (hc : c.Complete) :
    (call c w).after.host.ids = (Memory.serve ⟨w.host, m⟩ c).after.host.ids ∧
      ((Memory.serve ⟨w.host, m⟩ c).after.host.ids.Distinct →
        (call c w).answer = (Memory.serve ⟨w.host, m⟩ c).answer ∧
          Holds (call c w).after (Memory.serve ⟨w.host, m⟩ c).after.store) := by
  -- Looks find what the store in memory finds; the changes are the four lemmas above.
  cases c with
  | headObject bucket id => exact ⟨rfl, fun _ => ⟨congrArg some (h.head bucket id), h⟩⟩
  | getRange bucket id offset length =>
    exact ⟨rfl, fun _ => ⟨congrArg some (h.range bucket id offset length), h⟩⟩
  | searchObjects bucket filters =>
    exact ⟨rfl, fun _ => ⟨congrArg some (h.search bucket filters), h⟩⟩
  | getBucket id => exact ⟨rfl, fun _ => ⟨congrArg some (h.getBucket id), h⟩⟩
  | listBuckets owner => exact ⟨rfl, fun _ => ⟨congrArg some (h.listBuckets owner), h⟩⟩
  | deleteObject bucket id =>
    have hdelete := h.deleteObject bucket id
    simp only [call, answered, Memory.serve]
    cases ho : m.object? bucket id with
    | none =>
      simp only [ho] at hdelete
      rw [hdelete]
      exact ⟨rfl, fun _ => ⟨rfl, h⟩⟩
    | some o =>
      simp only [ho] at hdelete
      obtain ⟨w', hdelete, hafter, hids⟩ := hdelete
      rw [hdelete]
      exact ⟨hids, fun _ => ⟨rfl, hafter⟩⟩
  | deleteBucket id =>
    have hdelete := h.deleteBucket id
    simp only [call, answered, Memory.serve]
    cases hb : m.bucket? id with
    | none =>
      simp only [hb] at hdelete
      rw [hdelete]
      exact ⟨rfl, fun _ => ⟨rfl, h⟩⟩
    | some b =>
      simp only [hb] at hdelete
      obtain ⟨w', hdelete, hafter, hids⟩ := hdelete
      rw [hdelete]
      exact ⟨hids, fun _ => ⟨rfl, hafter⟩⟩
  | putBucket header =>
    obtain ⟨files, hmade, -⟩ := (h.draw .bucket).makeBucketRoot (w.host.draw .bucket).1
    have hids : (Durable.createBucket header (w.host.draw .bucket).1
        { w with host := (w.host.draw .bucket).2 }).2.host.ids = (w.host.ids.draw .bucket).2 := by
      simp only [Durable.createBucket, hmade]
      split <;> rfl
    refine ⟨hids, fun hd => ?_⟩
    obtain ⟨w', hcreate, hafter, -⟩ := (h.draw .bucket).createBucket header
      (IdSupply.issued_draw w.host.ids .bucket)
      (fun b hb => (h.sound.issued b hb).ne_draw hd)
    have hcall : Durable.createBucket header (w.host.draw .bucket).1
        { w with host := (w.host.draw .bucket).2 } = (.ok (w.host.draw .bucket).1, w') := hcreate
    simp only [call, hcall]
    exact ⟨rfl, hafter⟩
  | putObject header payload =>
    obtain ⟨chunks, hdrain⟩ := hc
    have hids := h.upload_ids header payload
    simp only [call, Memory.serve, hdrain, Memory.answered, Memory.upload]
    cases hb : m.bucket? header.bucket with
    | none =>
      rw [h.upload_refused header payload hb]
      exact ⟨rfl, fun _ => ⟨rfl, h⟩⟩
    | some b =>
      rw [hb, Option.isSome_some, if_pos rfl] at hids
      refine ⟨hids, fun hd => ?_⟩
      obtain ⟨hanswer, hafter⟩ := h.upload_complete header hdrain (by simp [hb]) hd
      -- The store in memory has also noted the sizes of the chunks.
      exact ⟨hanswer, hafter.of_buckets hafter.healthy rfl⟩

theorem Holds.call_incomplete (h : Holds w m) {c : Command} (hc : ¬c.Complete) :
    (∀ answer, (call c w).answer ≠ some (.ok answer)) ∧ Holds (call c w).after m := by
  cases c with
  | putObject header payload => exact h.upload_incomplete header payload hc
  | _ => exact absurd trivial hc

/-- A call that waits has changed nothing, unless it has drawn a key and made the
directory of a bucket. -/
theorem Holds.call_firstWait (h : Holds w m) {c : Command} {left : World Store}
    (hwait : (call c w).firstWait = some left) : Holds left m := by
  cases c with
  | putBucket header =>
    obtain ⟨files, hmade, -, hfiled⟩ := (h.draw .bucket).makeBucketRoot (w.host.draw .bucket).1
    simp only [call, hmade, Option.some.injEq] at hwait
    subst hwait
    exact (h.draw .bucket).withFiles hfiled
  | _ =>
    obtain ⟨-, rfl⟩ : w.store.db.reachable = true ∧ w = left := by
      simpa [call, answered] using hwait
    exact h

/-- A call draws keys or leaves the supply as it is, whether it waits or not. -/
theorem call_extends (c : Command) (w : World Store) :
    (call c w).after.host.ids.Extends w.host.ids ∧
      ∀ left, (call c w).firstWait = some left → left.host.ids.Extends w.host.ids := by
  have hwait : ∀ left, (if w.store.db.reachable then some w else none) = some left →
      left.host.ids.Extends w.host.ids := by
    intro left hleft
    split at hleft
    · cases hleft
      exact .refl _
    · cases hleft
  cases c with
  | putObject header payload => exact ⟨upload_extends header payload w, hwait⟩
  | deleteObject bucket id =>
    refine ⟨?_, hwait⟩
    simp only [call, answered, deleteObject]
    cases w.store.db.deleteObject bucket id with
    | error cause => exact .refl _
    | ok deleted =>
      obtain ⟨deleted, db⟩ := deleted
      cases deleted with
      | false => exact .refl _
      | true =>
        simp only
        split <;> exact .refl _
  | deleteBucket id =>
    refine ⟨?_, hwait⟩
    simp only [call, answered, deleteBucket]
    cases w.store.db.deleteBucket id with
    | error cause => exact .refl _
    | ok deleted =>
      obtain ⟨deleted, db⟩ := deleted
      cases deleted <;> exact .refl _
  | putBucket header =>
    have hdraw := IdSupply.extends_draw w.host.ids .bucket
    refine ⟨?_, fun left hleft => ?_⟩
    · simp only [call, createBucket]
      split
      · exact hdraw
      · split <;> exact hdraw
    · cases hleft
      exact hdraw
  | _ => exact ⟨.refl _, hwait⟩

theorem faithful : Faithful backend Holds where
  healthy h := h.healthy
  sound h := h.sound
  alike h hhealthy hbuckets := h.of_buckets hhealthy hbuckets
  ids h hc := (h.call_complete hc).1
  complete h hc hd := (h.call_complete hc).2 hd
  incomplete h hc := h.call_incomplete hc
  extends_after w c := (call_extends c w).1
  extends_firstWait hwait := (call_extends _ _).2 _ hwait
  firstWait h hwait := h.call_firstWait hwait

end ObjectGateway.Durable
