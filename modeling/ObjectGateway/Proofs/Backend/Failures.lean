import ObjectGateway.Proofs.Durable.Integrity
/-!
# A call that fails leaves the store as it was

On disk a call that fails, or that is abandoned, changes no row and no file; some empty
directories may be left. In memory it changes nothing at all but the number of calls.
-/
namespace ObjectGateway

-- ---------------------------------------------------------------------------
-- On disk
-- ---------------------------------------------------------------------------

namespace Durable

variable {w left : World Store} {m : Memory.Store}

/-- The directories that a call in the world `w` may leave when it fails: the two that an
upload would have been filed under, and that of a bucket which did not come to be. -/
def leavings (w : World Store) : Command → List Location
  | .putObject header _ =>
    let dir := shardDir w.store.base header.bucket (w.host.draw .object).1
    [dir.dropLast, dir]
  | .putBucket _ => [bucketRoot w.store.base (w.host.draw .bucket).1]
  | _ => []

/-- The rows are the same, and below the base directory so are the files and their
contents. What else is found there now are directories without a file in them. -/
structure Undisturbed (c : Command) (w left : World Store) : Prop where
  store : left.store = w.store
  files : ∀ l data, w.store.base.within l →
    (left.host.files.find? l = some (.file data) ↔ w.host.files.find? l = some (.file data))
  directories : ∀ l, w.store.base.within l →
    left.host.files.find? l = w.host.files.find? l ∨
      l ∈ leavings w c ∧ w.host.files.find? l = none ∧ left.host.files.find? l = some .dir ∧
        ∀ k data, left.host.files.find? (l ++ k) ≠ some (.file data)

theorem Undisturbed.refl (c : Command) (w : World Store) : Undisturbed c w w :=
  ⟨rfl, fun _ _ _ => .rfl, fun _ _ => .inl rfl⟩

/-- All that has been done is to make a chain of directories. -/
theorem Undisturbed.of_made {c : Command} {k : Location}
    (h : Filed w.store.base w.host.files m) (hk : k.length < 4) (hstore : left.store = w.store)
    (hview : ∀ j, left.host.files.find? (w.store.base ++ j) =
      if j <+: k then some .dir else w.host.files.find? (w.store.base ++ j))
    (hnew : ∀ j, j <+: k → w.host.files.find? (w.store.base ++ j) = none →
      w.store.base ++ j ∈ leavings w c) : Undisturbed c w left := by
  have hfiles : ∀ j data, left.host.files.find? (w.store.base ++ j) = some (.file data) ↔
      w.host.files.find? (w.store.base ++ j) = some (.file data) := by
    intro j data
    rw [hview]
    split
    · rename_i hj
      -- The chain ends above the depth of files.
      refine ⟨nofun, fun hfile => ?_⟩
      have hdepth := h.layered.files hfile
      have hlength := hj.length_le
      omega
    · rfl
  refine ⟨hstore, fun l data hl => ?_, fun l hl => ?_⟩
  · obtain ⟨j, rfl⟩ := Location.within_iff.mp hl
    exact hfiles j data
  · obtain ⟨j, rfl⟩ := Location.within_iff.mp hl
    by_cases hj : j <+: k
    · have hdir : left.host.files.find? (w.store.base ++ j) = some .dir := by rw [hview, if_pos hj]
      cases hold : w.host.files.find? (w.store.base ++ j) with
      | none =>
        refine .inr ⟨hnew j hj hold, rfl, hdir, fun rest data hfile => ?_⟩
        rw [List.append_assoc, hfiles, h.layered.missing_below hold] at hfile
        cases hfile
      | some node =>
        cases node with
        | dir => exact .inl hdir
        | file data =>
          have hdepth := h.layered.files hold
          have hlength := hj.length_le
          omega
    · exact .inl (by rw [hview, if_neg hj])

/-- The tree once the directory `k` has been made. -/
theorem Filed.find?_makeDirs {base k : Location} {t t' : FileTree} (h : Filed base t m)
    (hk : k.length < 4) (hmade : t.makeDirs (base ++ k) = (.ok (), t')) (j : Location) :
    t'.find? (base ++ j) = if j <+: k then some .dir else t.find? (base ++ j) := by
  obtain ⟨made, hmade', -, hview⟩ := h.layered.makeDirs_below hk
  obtain ⟨-, rfl⟩ := Prod.mk.inj (hmade.symm.trans hmade')
  exact hview j

/-! ## Uploads -/

/-- An upload to a bucket that is there leaves nothing but its directory when the files
look as they did when this was made. -/
theorem Holds.undisturbed_of_view (h : Holds w m) (header : ObjectHeader)
    (payload : PayloadStream) (hbucket : m.HasBucket header.bucket) {files : FileTree}
    (hmade : w.host.files.makeDirs
      (shardDir w.store.base header.bucket (w.host.draw .object).1) = (.ok (), files))
    {db : Database} (hstore : left.store = { w.store with db })
    (hview : ∀ j, left.host.files.find? (w.store.base ++ j) = files.find? (w.store.base ++ j)) :
    Undisturbed (.putObject header payload) (withDb w db) left := by
  have hlen := length_shardNames header.bucket (w.host.draw .object).1
  have hroot := h.filed.roots header.bucket hbucket
  rw [shardDir_eq] at hmade
  rw [bucketRoot] at hroot
  refine .of_made (m := m) (k := shardNames header.bucket (w.host.draw .object).1) h.filed
    (by omega) hstore (fun j => ?_) fun j hj hnone => ?_
  · exact (hview j).trans (h.filed.find?_makeDirs (by omega) hmade j)
  · -- The base directory and that of the bucket were there already.
    have hmissing : w.host.files.find? (w.store.base ++ j) = none := hnone
    have hlong : 2 ≤ j.length := by
      obtain _ | ⟨name, _ | ⟨next, rest⟩⟩ := j
      · rw [List.append_nil, h.filed.layered.above (List.prefix_refl _)] at hmissing
        cases hmissing
      · obtain rfl : name = header.bucket.text := (List.cons_prefix_cons.mp hj).1
        rw [hroot] at hmissing
        cases hmissing
      · simp
    exact mem_shardDirs_iff.mpr ⟨hlong, hj⟩

/-- Without its row nothing counts as uploaded. -/
theorem record_refused (header : ObjectHeader) (id : ObjectId) (payload : Bytes)
    (files : FileTree) {cause : DatabaseError}
    (hrefused : w.store.db.insertObject (objectRow header id payload) = .error cause)
    (id' : ObjectId) : (record header id payload files w).1 ≠ .ok id' := by
  simp only [record]
  cases files.writeFile (uploadFile w.store.base header.bucket id) payload with
  | error _ => rintro ⟨⟩
  | ok files =>
    simp only
    cases files.rename (uploadFile w.store.base header.bucket id)
        (payloadFile w.store.base header.bucket id) with
    | error _ => rintro ⟨⟩
    | ok files =>
      rw [hrefused]
      rintro ⟨⟩

/-- An upload that has no result leaves no row and no file, whichever database there is
by the time that its stream has been read. -/
theorem Holds.finish_failed (h : Holds w m) (hd : (w.host.ids.draw .object).2.Distinct)
    (header : ObjectHeader) (payload : PayloadStream) (hbucket : m.HasBucket header.bucket)
    {files : FileTree}
    (hmade : w.host.files.makeDirs
      (shardDir w.store.base header.bucket (w.host.draw .object).1) = (.ok (), files))
    (hdir : files.find? (shardDir w.store.base header.bucket (w.host.draw .object).1) = some .dir)
    (hfiled : Filed w.store.base files m) (db : Database)
    (hfail : ∀ id, (finish header payload files (withDb w db)).1 ≠ some (.ok id)) :
    Undisturbed (.putObject header payload) (withDb w db)
      (finish header payload files (withDb w db)).2 := by
  have habandoned := (hfiled.abandonUpload_view hdir).2
  -- The files that were written are gone again, each way in which an upload can end.
  cases hdrain : payload.drain with
  | failed cause =>
    simp only [finish, hdrain]
    exact h.undisturbed_of_view header payload hbucket hmade rfl habandoned
  | waiting chunks =>
    simp only [finish, hdrain]
    exact h.undisturbed_of_view header payload hbucket hmade rfl habandoned
  | complete chunks =>
    have hnew : ∀ bucket o, m.Contains bucket o → o.info.id ≠ (w.host.draw .object).1 := by
      rintro bucket o ⟨b, hmem, -, ho⟩
      exact h.sound.ne_draw hd hmem ho
    have hwrite := hfiled.writeFile hdir chunks.flatten
    obtain ⟨placed, hrename, hview⟩ := hfiled.discard_placed hdir hnew chunks.flatten
    simp only [finish, hdrain, record, begun, withDb, hwrite, hrename] at hfail ⊢
    cases hinsert : db.insertObject
        (objectRow header (w.host.draw .object).1 chunks.flatten) with
    | error cause => exact h.undisturbed_of_view header payload hbucket hmade rfl hview
    | ok db' =>
      simp only [hinsert] at hfail
      exact absurd rfl (hfail _)

/-- A bucket that has a row is there. -/
theorem Holds.hasBucket_of_row (h : Holds w m) {bucket : BucketId} {row : BucketRow}
    (hrow : w.store.db.findBucket bucket = .ok (some row)) : m.HasBucket bucket := by
  obtain ⟨buckets, objects, hdb, hrec⟩ := h.recorded
  have hfound := hrec.found_bucket bucket
  rw [← hdb, hrow] at hfound
  cases hb : m.bucket? bucket with
  | none =>
    rw [hb] at hfound
    cases hfound
  | some b =>
    obtain ⟨hmem, hid⟩ := Memory.Store.bucket?_eq_some hb
    exact ⟨b, hmem, hid⟩

/-- An upload has its directory made if its bucket is there, and goes on with whichever
database there is when its stream has been read. -/
theorem Holds.upload_interrupted (h : Holds w m) (hd : (w.host.ids.draw .object).2.Distinct)
    (header : ObjectHeader) (payload : PayloadStream) (hbucket : m.HasBucket header.bucket) :
    ∃ files, upload header payload w = finish header payload files w ∧
      ∀ db, (∀ id, (finish header payload files (withDb w db)).1 ≠ some (.ok id)) →
        Undisturbed (.putObject header payload) (withDb w db)
          (finish header payload files (withDb w db)).2 := by
  obtain ⟨files, hmade, hupload, hdir, hfiled⟩ :=
    h.upload_begun header payload (Memory.Store.bucket?_isSome_iff.mpr hbucket)
  exact ⟨files, hupload, h.finish_failed hd header payload hbucket hmade hdir hfiled⟩

theorem Holds.upload_failed (h : Holds w m) (hd : (w.host.ids.draw .object).2.Distinct)
    (header : ObjectHeader) (payload : PayloadStream)
    (hfail : ∀ id, (upload header payload w).1 ≠ some (.ok id)) :
    Undisturbed (.putObject header payload) w (upload header payload w).2 := by
  cases hb : m.bucket? header.bucket with
  | none =>
    rw [h.upload_refused header payload hb]
    exact .refl _ _
  | some b =>
    obtain ⟨hmem, hid⟩ := Memory.Store.bucket?_eq_some hb
    obtain ⟨files, hupload, hleft⟩ := h.upload_interrupted hd header payload ⟨b, hmem, hid⟩
    rw [hupload] at hfail ⊢
    exact hleft w.store.db hfail

theorem answer_of_upload {header : ObjectHeader} {payload : PayloadStream} {files : FileTree}
    (h : upload header payload w = finish header payload files w) :
    (call (.putObject header payload) w).answer = (finish header payload files w).1 :=
  congrArg Prod.fst h

/-! ## All calls -/

/-- A call that is given up when it first waits has made a directory at most. -/
theorem Holds.undisturbed_firstWait (h : Holds w m) {c : Command}
    (hwait : (call c w).firstWait = some left) : Undisturbed c w left := by
  cases c with
  | putBucket header =>
    obtain ⟨files, hmade, -⟩ := h.makeBucketRoot (w.host.draw .bucket).1
    have hmade' : (w.host.draw .bucket).2.files.makeDirs
        (bucketRoot w.store.base (w.host.draw .bucket).1) = (.ok (), files) := hmade
    simp only [call, hmade', Option.some.injEq] at hwait
    subst hwait
    refine .of_made (k := [(w.host.draw .bucket).1.text]) h.filed (by simp) rfl
      (h.filed.find?_makeDirs (by simp) hmade) fun j hj hnone => ?_
    obtain rfl | hself : j = [] ∨ j = [(w.host.draw .bucket).1.text] := by
      simpa [List.prefix_cons_iff] using hj
    · rw [List.append_nil, h.filed.layered.above (List.prefix_refl _)] at hnone
      cases hnone
    · simp [leavings, bucketRoot, hself]
  | _ =>
    obtain ⟨-, rfl⟩ : w.store.db.reachable = true ∧ w = left := by
      simpa [call, answered] using hwait
    exact .refl _ _

/-- A call without a result, whether it fails or waits for ever. -/
theorem Holds.undisturbed_after (h : Holds w m) (hd : (w.host.ids.draw .object).2.Distinct)
    (c : Command) (hfail : ∀ answer, (call c w).answer ≠ some (.ok answer)) :
    Undisturbed c w (call c w).after := by
  cases c with
  | putObject header payload => exact h.upload_failed hd header payload hfail
  | deleteObject bucket id =>
    have hdelete := h.deleteObject bucket id
    simp only [call, answered] at hfail ⊢
    cases ho : m.object? bucket id with
    | none =>
      simp only [ho] at hdelete
      rw [hdelete]
      exact .refl _ _
    | some o =>
      simp only [ho] at hdelete
      obtain ⟨w', hdelete, -⟩ := hdelete
      rw [hdelete] at hfail
      exact absurd rfl (hfail ())
  | deleteBucket id =>
    have hdelete := h.deleteBucket id
    simp only [call, answered] at hfail ⊢
    cases hb : m.bucket? id with
    | none =>
      simp only [hb] at hdelete
      rw [hdelete]
      exact .refl _ _
    | some b =>
      simp only [hb] at hdelete
      obtain ⟨w', hdelete, -⟩ := hdelete
      rw [hdelete] at hfail
      exact absurd rfl (hfail ())
  | putBucket header =>
    -- A bucket is always created: its key is new, so the row is accepted.
    have hanswer := ((h.call_complete (c := .putBucket header) trivial).2 hd).1
    exact absurd hanswer (hfail _)
  | _ => exact .refl _ _

theorem Holds.undisturbed_settle (h : Holds w m) (hd : (w.host.ids.draw .object).2.Distinct)
    (ctx : Context) (c : Command) {cause : BackendError}
    (hfail : (ctx.settle w (call c w)).1 = .error cause) :
    Undisturbed c w (ctx.settle w (call c w)).2 := by
  have houtcome := ctx.settle_outcome w (call c w)
  generalize ctx.settle w (call c w) = r at houtcome hfail
  cases houtcome with
  | answered hanswer =>
    cases hfail
    exact h.undisturbed_after hd c (by simp [hanswer])
  | unmade => exact .refl _ _
  | gaveUp hwait => exact h.undisturbed_firstWait hwait
  | unanswered hnone => exact h.undisturbed_after hd c (by simp [hnone])

end Durable

-- ---------------------------------------------------------------------------
-- In memory
-- ---------------------------------------------------------------------------

namespace Memory

variable {w : World Store} {c : Command}

/-- The buckets and their objects are the same in the same order, and the last upload is
still the last one. -/
structure Untouched (w left : World Store) : Prop where
  buckets : left.store.buckets = w.store.buckets
  lastUpload : left.store.lastUpload = w.store.lastUpload

/-- A call without a result has been counted, and that is all. -/
theorem after_of_failed (w : World Store) (c : Command)
    (hfail : ∀ answer, (backend.call c w).answer ≠ some (.ok answer)) :
    (backend.call c w).after = counted w := by
  simp only [backend, call] at hfail ⊢
  split
  · rfl
  · rename_i hstalled
    rw [if_neg hstalled] at hfail
    obtain ⟨a, ha, -⟩ | ⟨-, hafter⟩ := serve_cases (counted w) c
    · exact absurd ha (hfail a)
    · exact hafter

theorem untouched_counted (w : World Store) : Untouched w (counted w) := ⟨rfl, rfl⟩

theorem untouched_settle (ctx : Context) (c : Command) (w : World Store) {cause : BackendError}
    (hfail : (ctx.settle w (backend.call c w)).1 = .error cause) :
    Untouched w (ctx.settle w (backend.call c w)).2 := by
  have houtcome := ctx.settle_outcome w (backend.call c w)
  generalize ctx.settle w (backend.call c w) = r at houtcome hfail
  cases houtcome with
  | answered hanswer =>
    cases hfail
    exact after_of_failed w c (by simp [hanswer]) ▸ untouched_counted w
  | unmade => exact ⟨rfl, rfl⟩
  | gaveUp hwait => exact firstWait_counted hwait ▸ untouched_counted w
  | unanswered hnone => exact after_of_failed w c (by simp [hnone]) ▸ untouched_counted w

end Memory

-- ---------------------------------------------------------------------------
-- Both
-- ---------------------------------------------------------------------------

section Both

open Durable

/-- Whatever a store has been through, a request that fails leaves it as it was, and so
does a call that is abandoned while its stream has it wait. An upload that gets as far as
its database may find any other one there: as long as that refuses the row, nothing of the
upload remains. -/
theorem failed_call_leaves_store {w : World Durable.Store} (h : Reachable w)
    (hd : (w.host.ids.draw .object).2.Distinct) :
    (∀ (ctx : Context) c cause, (ctx.settle w (call c w)).1 = .error cause →
      Undisturbed c w (ctx.settle w (call c w)).2) ∧
    (∀ c, (call c w).answer = none → Undisturbed c w (call c w).after) ∧
    (∀ header payload row, w.store.db.findBucket header.bucket = .ok (some row) →
      ∃ files, upload header payload w = finish header payload files w ∧
        ∀ db, (∀ id, (finish header payload files (withDb w db)).1 ≠ some (.ok id)) →
          Undisturbed (.putObject header payload) (withDb w db)
            (finish header payload files (withDb w db)).2) ∧
    ∀ v : World Memory.Store,
      (∀ (ctx : Context) c cause, (ctx.settle v (Memory.backend.call c v)).1 = .error cause →
        Memory.Untouched v (ctx.settle v (Memory.backend.call c v)).2) ∧
      ∀ c, (Memory.backend.call c v).answer = none →
        Memory.Untouched v (Memory.backend.call c v).after := by
  obtain ⟨m, hm⟩ := h.holds (hd.of_extends (IdSupply.extends_draw w.host.ids .object))
  refine ⟨fun ctx c cause hfail => hm.undisturbed_settle hd ctx c hfail,
    fun c hnone => hm.undisturbed_after hd c (by simp [hnone]),
    fun header payload row hrow => ?_,
    fun v => ⟨fun ctx c cause hfail => Memory.untouched_settle ctx c v hfail, fun c hnone => ?_⟩⟩
  · exact hm.upload_interrupted hd header payload (hm.hasBucket_of_row hrow)
  · exact Memory.after_of_failed v c (by simp [hnone]) ▸ Memory.untouched_counted v

/-- An upload that its stream breaks off, one that its stream leaves waiting, and one whose
row is refused because the tables are gone, each to a bucket that is there. -/
theorem failed_call_leaves_store_upload :
    let header : ObjectHeader := { bucket := ⟨0⟩, owner := Id.nil }
    let broken : Command := .putObject header ⟨[.ok [1], .error .endOfFile], false⟩
    let stalled : Command := .putObject header ⟨[.ok [1]], true⟩
    Reachable bucketWorld ∧ (bucketWorld.host.ids.draw .object).2.Distinct ∧
    (Context.settle {} bucketWorld (call broken bucketWorld)).1 = .error (.io .endOfFile) ∧
    Undisturbed broken bucketWorld (Context.settle {} bucketWorld (call broken bucketWorld)).2 ∧
    (call stalled bucketWorld).answer = none ∧
    Undisturbed stalled bucketWorld (call stalled bucketWorld).after ∧
    ∃ files, upload header (.ofChunks [[1]]) bucketWorld =
        finish header (.ofChunks [[1]]) files bucketWorld ∧
      Undisturbed (.putObject header (.ofChunks [[1]])) (withDb bucketWorld {})
        (finish header (.ofChunks [[1]]) files (withDb bucketWorld {})).2 := by
  intro header broken stalled
  obtain ⟨hids, m, hheld, hthere⟩ := bucketWorld_holds
  have hd : (bucketWorld.host.ids.draw .object).2.Distinct := by
    rw [hids]
    exact IdSupply.distinct_counting (n := 2) (by decide)
  obtain ⟨hsettle, hnone, hrefused, -⟩ := failed_call_leaves_store reachable_bucketWorld hd
  have hbroken : (call broken bucketWorld).answer = some (.error (.io .endOfFile)) := by
    obtain ⟨files, -, hupload, -⟩ :=
      hheld.upload_begun header ⟨[.ok [1], .error .endOfFile], false⟩ hthere
    exact answer_of_upload hupload
  have hstalled : (call stalled bucketWorld).answer = none := by
    obtain ⟨files, -, hupload, -⟩ := hheld.upload_begun header ⟨[.ok [1]], true⟩ hthere
    exact answer_of_upload hupload
  have hfailed : (Context.settle {} bucketWorld (call broken bucketWorld)).1 =
      .error (.io .endOfFile) := by
    rw [Context.settle_live Context.live_default hbroken]
  obtain ⟨row, hrow⟩ : ∃ row, bucketWorld.store.db.findBucket ⟨0⟩ = .ok (some row) := ⟨_, rfl⟩
  obtain ⟨files, hupload, hleft⟩ := hrefused header (.ofChunks [[1]]) row hrow
  refine ⟨reachable_bucketWorld, hd, hfailed, hsettle _ _ _ hfailed, hstalled,
    hnone _ hstalled, files, hupload, hleft {} fun id => ?_⟩
  simp only [finish, PayloadStream.drain_ofChunks]
  exact fun h => record_refused header _ _ files rfl id (Option.some.inj h)

end Both

end ObjectGateway
