import ObjectGateway.Proofs.Durable.Integrity
/-!
# What is stored reads back

Attributes are stored as a text, in which every character of a key or a value has an escape that
is read back as this character. A bucket or an object that has been stored is looked up as its
header has it, attributes included, whatever the world was like before. In the worlds that calls
lead to, storing does not fail either.
-/
namespace ObjectGateway.Durable

open Memory (StoredObject)

variable {db db' : Database} {w : World Store} {m : Memory.Store} {id : ObjectId}

-- ---------------------------------------------------------------------------
-- Rows
-- ---------------------------------------------------------------------------

/-- A row goes behind the others of its table, none of which has its key. -/
theorem Database.insertBucket_inv {row : BucketRow} (h : db.insertBucket row = .ok db') :
    ∃ t : Table BucketRow, (∀ other ∈ t.rows, other.id ≠ row.id) ∧
      db'.bucketTable = .ok ⟨t.rows ++ [{ row with seq := t.last + 1 }], t.last + 1⟩ := by
  simp only [Database.insertBucket, bind, Except.bind, pure, Except.pure] at h
  cases htable : db.bucketTable with
  | error cause => simp [htable] at h
  | ok t =>
    have hreachable := Database.reachable_of_bucketTable htable
    simp only [htable] at h
    split at h
    · cases h
    · rename_i hnew
      cases h
      exact ⟨t, by simpa using hnew, by simp [Database.bucketTable, hreachable]⟩

theorem Database.insertObject_inv {row : ObjectRow} (h : db.insertObject row = .ok db') :
    ∃ t : Table ObjectRow, (∀ other ∈ t.rows, other.id ≠ row.id) ∧
      db'.objectTable = .ok ⟨t.rows ++ [{ row with seq := t.last + 1 }], t.last + 1⟩ := by
  simp only [Database.insertObject, bind, Except.bind, pure, Except.pure] at h
  cases htable : db.objectTable with
  | error cause => simp [htable] at h
  | ok t =>
    have hreachable := Database.reachable_of_objectTable htable
    cases hparents : db.referencedTable with
    | error cause => simp [htable, hparents] at h
    | ok parents =>
      simp only [htable, hparents] at h
      split at h
      · cases h
      · rename_i hnew
        split at h
        · cases h
        · cases h
          exact ⟨t, by simpa using hnew, by simp [Database.objectTable, hreachable]⟩

/-- So it is the row that is found under its key. -/
theorem Database.findBucket_insertBucket {row : BucketRow} (h : db.insertBucket row = .ok db') :
    ∃ kept, db'.findBucket row.id = .ok (some kept) ∧ kept.unnumbered = row.unnumbered := by
  obtain ⟨t, hnew, htable⟩ := Database.insertBucket_inv h
  have hmissing : t.rows.find? (fun other => other.id == row.id) = none := by
    rw [List.find?_eq_none]
    simpa using hnew
  refine ⟨{ row with seq := t.last + 1 }, ?_, rfl⟩
  rw [Database.findBucket_of_table htable, List.find?_append, hmissing]
  simp

theorem Database.findObject_insertObject {row : ObjectRow} (h : db.insertObject row = .ok db') :
    ∃ kept, db'.findObject row.bucket row.id = .ok (some kept) ∧
      kept.unnumbered = row.unnumbered := by
  obtain ⟨t, hnew, htable⟩ := Database.insertObject_inv h
  have hmissing :
      t.rows.find? (fun other => other.bucket == row.bucket && other.id == row.id) = none := by
    rw [List.find?_eq_none]
    intro other hother
    simp [hnew other hother]
  refine ⟨{ row with seq := t.last + 1 }, ?_, rfl⟩
  rw [Database.findObject_of_table htable, List.find?_append, hmissing]
  simp

-- ---------------------------------------------------------------------------
-- Changes
-- ---------------------------------------------------------------------------

/-- A change that puts something into the store of which `P` holds then, or that is refused for
another reason than metadata that cannot be read. -/
inductive Puts {α : Type} (P : α → World Store → Prop) : Except BackendError α × World Store → Prop
  | done {v : α} {w : World Store} (h : P v w) : Puts P (.ok v, w)
  | refused {cause : BackendError} {w : World Store} (h : ∀ damage, cause ≠ .corrupt damage) :
      Puts P (.error cause, w)

section Puts

variable {α : Type} {P Q : α → World Store → Prop}

theorem Puts.of_ok {v : α} (h : Puts P (.ok v, w)) : P v w := by
  cases h with
  | done h => exact h

theorem Puts.imp {r : Except BackendError α} (h : Puts P (r, w)) (hPQ : ∀ v, P v w → Q v w) :
    Puts Q (r, w) := by
  cases h with
  | done h => exact .done (hPQ _ h)
  | refused h => exact .refused h

/-- A request that is given up is no sign of damage. -/
theorem Puts.settle {c : Call (World Store) α}
    (h : ∀ answer, c.answer = some answer → Puts P (answer, c.after)) (ctx : Context)
    (w : World Store) : Puts P (ctx.settle w c) := by
  have houtcome := ctx.settle_outcome w c
  generalize ctx.settle w c = r at houtcome ⊢
  cases houtcome with
  | answered hanswer => exact h _ hanswer
  | unmade => exact .refused nofun
  | gaveUp _ hcause =>
    rcases hcause with rfl | rfl
    · exact .refused nofun
    · exact .refused nofun
  | unanswered => exact .refused nofun

end Puts

def BucketShown (header : BucketHeader) (id : BucketId) (w : World Store) : Prop :=
  (call (.getBucket id) w).answer =
    some (.ok ⟨id, header.owner, header.policy, header.acl, header.attributes⟩)

def ObjectShown (header : ObjectHeader) (size : Nat) (id : ObjectId) (w : World Store) : Prop :=
  (call (.headObject header.bucket id) w).answer =
    some (.ok ⟨id, header.bucket, header.owner, size, header.attributes⟩)

theorem getBucket_of_row {bucket : BucketId} {row : BucketRow} {info : BucketMeta}
    (hfind : w.store.db.findBucket bucket = .ok (some row))
    (hrow : row.unnumbered = bucketRow info) :
    (call (.getBucket bucket) w).answer = some (.ok info) := by
  simp only [call, answered, hfind, found, ofDatabase, bind, Except.bind, pure, Except.pure,
    BucketRow.info_of_unnumbered hrow]

theorem headObject_of_row {bucket : BucketId} {row : ObjectRow} {o : StoredObject}
    (hfind : w.store.db.findObject bucket id = .ok (some row))
    (hrow : row.unnumbered = storedRow o) (hsized : o.info.size = o.payload.length) :
    (call (.headObject bucket id) w).answer = some (.ok o.info) := by
  simp only [call, answered, Store.head, hfind, found, ofDatabase, bind, Except.bind, pure,
    Except.pure, ObjectRow.info_of_unnumbered hrow hsized]

theorem createBucket_puts (header : BucketHeader) (id : BucketId) (w : World Store) :
    Puts (BucketShown header) (createBucket header id w) := by
  unfold createBucket
  split
  · exact .refused nofun
  simp only
  split
  · exact .refused nofun
  · rename_i hinsert
    obtain ⟨kept, hfind, hkept⟩ := Database.findBucket_insertBucket hinsert
    exact .done (getBucket_of_row hfind hkept)

theorem record_puts (header : ObjectHeader) (id : ObjectId) (payload : Bytes) (files : FileTree)
    (w : World Store) :
    Puts (ObjectShown header payload.length) (record header id payload files w) := by
  unfold record
  simp only
  split
  · exact .refused nofun
  split
  · exact .refused nofun
  split
  · exact .refused nofun
  · rename_i hinsert
    obtain ⟨kept, hfind, hkept⟩ := Database.findObject_insertObject hinsert
    have hrow : kept.unnumbered = storedRow (.ofHeader id header payload) := hkept
    exact .done (headObject_of_row hfind hrow rfl)

theorem found_error {ρ : Type} {r : Except DatabaseError (Option ρ)} {cause : BackendError}
    (h : found r = .error cause) (damage : Corruption) : cause ≠ .corrupt damage := by
  rintro rfl
  rcases r with _ | _ | _ <;> cases h

theorem upload_puts (header : ObjectHeader) (payload : PayloadStream) (w : World Store) :
    ∀ answer, (upload header payload w).1 = some answer →
      Puts (fun id w' => ∃ chunks, payload.drain = .complete chunks ∧
        ObjectShown header chunks.flatten.length id w') (answer, (upload header payload w).2) := by
  unfold upload
  split
  · rename_i hfound
    rintro answer ⟨⟩
    exact .refused (found_error hfound)
  simp only
  split
  · rintro answer ⟨⟩
    exact .refused nofun
  split
  · rintro answer ⟨⟩
    exact .refused nofun
  split
  · rintro answer ⟨⟩
    exact .refused nofun
  · nofun
  · rename_i chunks hdrain
    rintro answer ⟨⟩
    exact (record_puts ..).imp fun _ h => ⟨chunks, hdrain, h⟩

-- ---------------------------------------------------------------------------
-- Requests
-- ---------------------------------------------------------------------------

theorem settle_putBucket_puts (ctx : Context) (w : World Store) (header : BucketHeader) :
    Puts (BucketShown header) (ctx.settle w (call (.putBucket header) w)) := by
  apply Puts.settle
  rintro answer ⟨⟩
  exact createBucket_puts ..

theorem settle_putObject_puts (ctx : Context) (w : World Store) (header : ObjectHeader)
    (payload : PayloadStream) :
    Puts (fun id w' => ∃ chunks, payload.drain = .complete chunks ∧
        ObjectShown header chunks.flatten.length id w')
      (ctx.settle w (call (.putObject header payload) w)) := by
  apply Puts.settle
  exact upload_puts header payload w

section Holds

variable {ctx : Context} (h : Holds w m) (hlive : ctx.Live)
include h hlive

/-- A bucket can be created wherever calls lead. -/
theorem Holds.settle_putBucket (header : BucketHeader)
    (hd : (Durable.served (.putBucket header) w).host.ids.Distinct) :
    ∃ id, ctx.settle w (call (.putBucket header) w) =
      (.ok id, Durable.served (.putBucket header) w) := by
  obtain ⟨hids, hserved⟩ := h.call_complete (c := .putBucket header) trivial
  obtain ⟨hanswer, -⟩ := hserved (hids ▸ hd)
  exact ⟨_, Context.settle_live hlive hanswer⟩

/-- An object can be stored in every bucket that is there. -/
theorem Holds.settle_putObject {header : ObjectHeader} {payload : PayloadStream}
    {chunks : List Bytes} (hdrain : payload.drain = .complete chunks)
    (hb : (m.bucket? header.bucket).isSome)
    (hd : (Durable.served (.putObject header payload) w).host.ids.Distinct) :
    ∃ id, ctx.settle w (call (.putObject header payload) w) =
      (.ok id, Durable.served (.putObject header payload) w) := by
  rw [Durable.served, h.call_putObject_ids header payload hb] at hd
  exact ⟨_, Context.settle_live hlive (h.served_putObject header hdrain hb hd).1⟩

end Holds

theorem Holds.bucket?_of_getBucket (h : Holds w m) {bucket : BucketId} {info : BucketMeta}
    (hanswer : (call (.getBucket bucket) w).answer = some (.ok info)) :
    (m.bucket? bucket).isSome := by
  have hget := (h.getBucket bucket).symm.trans (Option.some.inj hanswer)
  cases hb : m.bucket? bucket with
  | none =>
    rw [hb] at hget
    cases hget
  | some b => rfl

/-- The text that attributes are stored as reads as these attributes again. So a header that is
put is the one that is looked up, whatever becomes of the request: a bucket or an object that has
been put is shown as its header has it, and no put fails because metadata cannot be read. A live
request puts whatever header it is given, if it is one for a bucket that is there. -/
theorem headers_kept :
    (∀ attributes : Attributes,
        readAttributes (String.ofList attributes.encode) = .ok attributes) ∧
      (∀ (ctx : Context) (w : World Store) (header : BucketHeader),
        Puts (BucketShown header) (ctx.settle w (call (.putBucket header) w))) ∧
      (∀ (ctx : Context) (w : World Store) (header : ObjectHeader) (payload : PayloadStream),
        Puts (fun id w' => ∃ chunks, payload.drain = .complete chunks ∧
            ObjectShown header chunks.flatten.length id w')
          (ctx.settle w (call (.putObject header payload) w))) ∧
      ∀ (ctx : Context) (w : World Store), ctx.Live → Reachable w →
        (∀ header : BucketHeader, (served (.putBucket header) w).host.ids.Distinct →
          ∃ id w', ctx.settle w (call (.putBucket header) w) = (.ok id, w') ∧
            BucketShown header id w') ∧
        ∀ (header : ObjectHeader) (payload : PayloadStream) (chunks : List Bytes)
          (info : BucketMeta), payload.drain = .complete chunks →
          (call (.getBucket header.bucket) w).answer = some (.ok info) →
          (served (.putObject header payload) w).host.ids.Distinct →
          ∃ id w', ctx.settle w (call (.putObject header payload) w) = (.ok id, w') ∧
            ObjectShown header chunks.flatten.length id w' := by
  refine ⟨readAttributes_encode, settle_putBucket_puts, settle_putObject_puts, ?_⟩
  intro ctx w hlive hreachable
  constructor
  · intro header hd
    obtain ⟨m, hm⟩ := hreachable.holds (hd.of_extends (faithful.extends_after w _))
    obtain ⟨id, hput⟩ := hm.settle_putBucket hlive header hd
    have hputs := settle_putBucket_puts ctx w header
    rw [hput] at hputs
    exact ⟨id, _, hput, hputs.of_ok⟩
  · intro header payload chunks info hdrain hbucket hd
    obtain ⟨m, hm⟩ := hreachable.holds (hd.of_extends (faithful.extends_after w _))
    obtain ⟨id, hput⟩ := hm.settle_putObject hlive hdrain (hm.bucket?_of_getBucket hbucket) hd
    have hputs := settle_putObject_puts ctx w header payload
    rw [hput] at hputs
    obtain ⟨chunks', hdrain', hshown⟩ := hputs.of_ok
    rw [hdrain] at hdrain'
    cases hdrain'
    exact ⟨id, _, hput, hshown⟩

/-- Quotes, a backslash, a zero, pairs that occur twice and empty texts are all kept. -/
theorem headers_kept_escapes :
    let header : ObjectHeader :=
      { bucket := ⟨0⟩, owner := Id.nil
        attributes := ⟨[("\"k\\", "\x00\n"), ("", ""), ("", ""), ("FileName", "é")]⟩ }
    ∃ id w', Context.settle {} bucketWorld
        (call (.putObject header (.ofChunks [[1], [2]])) bucketWorld) = (.ok id, w') ∧
      (call (.headObject ⟨0⟩ id) w').answer =
        some (.ok ⟨id, ⟨0⟩, Id.nil, 2, header.attributes⟩) := by
  intro header
  obtain ⟨hids, m, hheld, hthere⟩ := bucketWorld_holds
  obtain ⟨b, hb⟩ := Option.isSome_iff_exists.mp hthere
  have hbucket : (call (.getBucket header.bucket) bucketWorld).answer = some (.ok b.info) := by
    have hget := hheld.getBucket header.bucket
    rw [hb] at hget
    exact congrArg some hget
  have hd : (served (.putObject header (.ofChunks [[1], [2]])) bucketWorld).host.ids.Distinct := by
    rw [served, hheld.call_putObject_ids _ _ hthere, hids]
    exact IdSupply.distinct_counting (n := 2) (by decide)
  obtain ⟨_, _, _, hkept⟩ := headers_kept
  exact (hkept {} bucketWorld Context.live_default reachable_bucketWorld).2 header _ _ _
    (PayloadStream.drain_ofChunks [[1], [2]]) hbucket hd

end ObjectGateway.Durable
