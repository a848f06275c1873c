import ObjectGateway.Proofs.Backend.Passing
import ObjectGateway.Proofs.Backend.WriteOnce
import ObjectGateway.Proofs.Gateway.RoundTrip
/-!
# Windows of an object

Whoever has a reader of an object gets just the bytes that are asked for, at any time until
the object is removed, and neither more nor fewer calls are made for them than it takes.
-/
namespace ObjectGateway

open FsProgram
open Config (BackendKind)

-- ---------------------------------------------------------------------------
-- Readers and their objects
-- ---------------------------------------------------------------------------

section Opening

variable {σ : Type} {b : Backend (World σ)} {holds : World σ → Memory.Store → Prop}
  {m : Memory.Store} {ids : IdSupply} {bucket : BucketId} {id : ObjectId}
  {o : Memory.StoredObject}

/-- An object is filed where it is found. -/
theorem Memory.Store.Sound.filed_of_object? (h : m.Sound ids) (ho : m.object? bucket id = some o) :
    o.info.bucket = bucket ∧ o.info.id = id ∧ o.info.size = o.payload.length := by
  obtain ⟨found, hbucket, hfind⟩ := Memory.Store.object?_eq_some ho
  obtain ⟨hfound, rfl⟩ := Memory.Store.bucket?_eq_some hbucket
  obtain ⟨hmem, rfl⟩ := Memory.StoredBucket.find?_eq_some hfind
  have hin := h.inside found hfound
  exact ⟨hin.filed o hmem, rfl, hin.sized o hmem⟩

/-- A reader with the metadata of an object is one that was opened for it. -/
theorem Memory.Store.Sound.opened (h : m.Sound ids) (ho : m.object? bucket id = some o)
    (now : Int) (path : String) : Reader.Opened m ⟨.ofMeta now o.info, path⟩ o := by
  obtain ⟨hbucket, hid, hsize⟩ := h.filed_of_object? ho
  refine ⟨?_, hsize⟩
  change m.object? o.info.bucket o.info.id = some o
  rw [hbucket, hid, ho]

variable (g : Gateway)

/-- By its two identifiers every object is opened. -/
theorem Gateway.get_reads_ids (hb : Faithful b holds) (hhealthy : m.Healthy) (h : m.Sound ids)
    (ho : m.object? bucket id = some o) :
    Reads b holds m (g.dispatch (.get (.object bucket.text id.text)))
      (.ok (.reader ⟨.ofMeta g.now o.info, (FsPath.object bucket.text id.text).text⟩)) := by
  obtain ⟨found, hbucket, hfind⟩ := Memory.Store.object?_eq_some ho
  obtain ⟨hfound, rfl⟩ := Memory.Store.bucket?_eq_some hbucket
  obtain ⟨hmem, rfl⟩ := Memory.StoredBucket.find?_eq_some hfind
  have hresolve : m.resolve g.settings.owner found.info.id.text = some found := by
    unfold Memory.Store.resolve
    rw [Id.parse?_text]
    exact hbucket
  exact g.openReader_text_reads hb hhealthy h hresolve hmem

/-- An entry of an object that the store holds. -/
def Memory.Store.Shows (m : Memory.Store) (g : Gateway) (entry : ObjectEntry) : Prop :=
  ∃ o, m.object? o.info.bucket o.info.id = some o ∧ entry = .ofMeta g.now o.info

theorem Gateway.fetchObject_shows (hb : Faithful b holds) (hhealthy : m.Healthy)
    (h : m.Sound ids) (bucket : BucketId) (id : ObjectId) (path : String) :
    Tells b holds m (g.fetchObject bucket id path) (m.Shows g) := by
  intro w ctx hheld hd
  obtain ⟨hheld, htold⟩ := (g.fetchObject_reads hb hhealthy bucket id path).any hheld hd
  refine ⟨hheld, fun entry hentry => ?_⟩
  have hfound := htold entry hentry
  cases ho : m.object? bucket id with
  | none =>
    rw [ho] at hfound
    cases hfound
  | some o =>
    rw [ho] at hfound
    obtain rfl := Except.ok.inj hfound
    exact ⟨o, (h.opened ho g.now path).there, rfl⟩

theorem Gateway.resolveObject_shows (hb : Faithful b holds) (hhealthy : m.Healthy)
    (h : m.Sound ids) (bucket : BucketEntry) (segment path : String) :
    Tells b holds m (g.resolveObject bucket segment path) (m.Shows g) := by
  unfold resolveObject
  split
  · exact .throw _
  · rename_i bucketId hbucket
    split
    · exact g.fetchObject_shows hb hhealthy h _ _ _
    · -- A name is searched for, and what is found first is fetched by its identifier.
      have hfind : Tells b holds m (g.findObject bucket segment path)
          fun found => ∀ entry, found = some entry → m.Shows g entry := by
        unfold findObject
        rw [hbucket]
        refine (reads_searchObjects hb path _ _).any.bind hb fun found _ => ?_
        cases found with
        | nil => exact .pure nofun
        | cons first rest =>
          simp only [map_eq_pure_bind]
          refine (g.fetchObject_shows hb hhealthy h _ first path).bind hb fun entry hentry => ?_
          refine .pure fun entry' hsame => ?_
          obtain rfl := Option.some.inj hsame
          exact hentry
      refine hfind.bind hb fun found hfound => ?_
      cases found with
      | none => exact .throw _
      | some entry => exact .pure (hfound entry rfl)

/-- Whichever way an object is named, a reader that is handed out for it has its metadata. -/
theorem Gateway.get_hands_out (hb : Faithful b holds) (hhealthy : m.Healthy) (h : m.Sound ids)
    (path : FsPath) :
    Tells b holds m (g.dispatch (.get path)) fun response =>
      ∃ entry, m.Shows g entry ∧ response = .reader ⟨entry, path.text⟩ := by
  rw [g.dispatch_eq rfl]
  simp only [perform, map_eq_pure_bind]
  cases path with
  | root => exact Tells.throw_bind hb _
  | bucket segment => exact Tells.throw_bind hb _
  | object segment name =>
    simp only [openReader, stat, map_eq_pure_bind, bind_assoc, pure_bind]
    refine (g.resolveBucket_reads hb h.apart segment).any.bind hb fun bucket _ => ?_
    refine (g.resolveObject_shows hb hhealthy h bucket name _).bind hb fun entry hentry => ?_
    exact .pure ⟨entry, hentry, rfl⟩

end Opening

-- ---------------------------------------------------------------------------
-- Reads that get nothing
-- ---------------------------------------------------------------------------

namespace Reader

variable {σ : Type} {b : Backend (World σ)} {holds : World σ → Memory.Store → Prop}
  {m : Memory.Store} {r : Reader}

theorem readAt_negative (r : Reader) (buffer : Bytes) {offset : Int} (h : offset < 0) :
    r.readAt buffer offset = throw (.invalid r.path "negative read offset") := by
  cases offset with
  | ofNat n => exact absurd h (by simp)
  | negSucc n => rfl

/-- Where nothing is to be read, the reader knows the answer by itself. -/
theorem readAt_nothing {payload : Bytes} (hsize : r.entry.size = payload.length) {buffer : Bytes}
    {offset : Nat} (h : (readInto payload buffer offset).count = 0) :
    r.readAt buffer offset = pure (readInto payload buffer offset) := by
  change r.readAt buffer (.ofNat offset) = _
  have hcount : min buffer.length (payload.length - offset) = 0 := h
  simp only [readAt_eq, fetch, readInto, hsize, hcount]
  split
  · rename_i hend
    simp [hend, Bytes.slice]
  · rename_i hinside
    have hbuffer : buffer = [] := List.eq_nil_of_length_eq_zero (by omega)
    simp [hbuffer, hinside, Bytes.slice]

/-- That the object is gone is found out with one call. -/
theorem readAt_gone (hb : Faithful b holds)
    (hgone : m.object? r.entry.bucket r.entry.id = none) {buffer : Bytes} {offset : Nat}
    (hsome : 0 < min buffer.length (r.entry.size - offset)) :
    Spends b holds m (r.readAt buffer offset) 1 (.error (.notFound r.path)) := by
  change Spends b holds m (r.readAt buffer (.ofNat offset)) _ _
  simp only [readAt_eq, fetch]
  rw [if_neg (by omega), if_neg (by omega)]
  have hcall := (reads_getRange_missing hb r.path hgone offset
    (min buffer.length (r.entry.size - offset))).spends
  exact (hcall.bind_error hb).bind_error hb

/-- What a read comes to for a request, and what is in the buffer then. -/
def filled (ctx : Context) (b : Backend (World σ)) (r : Reader) (buffer : Bytes) (offset : Int)
    (w : World σ) : Except FsError (Nat × Bool) × Bytes :=
  (ctx.run b ((r.fill offset).run.run buffer) w).1

theorem filled_eq (ctx : Context) (b : Backend (World σ)) (r : Reader) (buffer : Bytes)
    (offset : Int) (w : World σ) :
    r.filled ctx b buffer offset w =
      match ctx.told b (r.fetch buffer.length offset) w with
      | .ok (data, eof) => (.ok (data.length, eof), data ++ buffer.drop data.length)
      | .error cause => (.error cause, buffer) := by
  rw [filled, fill_eq]
  refine (congrArg Prod.fst (Program.run_bind _ (r.fetch buffer.length offset).run _ w)).trans ?_
  unfold Context.told Context.run
  cases ((r.fetch buffer.length offset).run.run (ctx.interpreter b) w).1 <;> rfl

/-- A request is told what the read has left in the buffer. -/
theorem told_readAt (ctx : Context) (b : Backend (World σ)) (r : Reader) (buffer : Bytes)
    (offset : Int) (w : World σ) :
    ctx.told b (r.readAt buffer offset) w = (r.filled ctx b buffer offset w).1.map
      fun read => ⟨read.1, read.2, (r.filled ctx b buffer offset w).2⟩ :=
  congrArg Prod.fst (Program.run_bind _ ((r.fill offset).run.run buffer) _ w)

/-- Whatever becomes of the request, a read that fails leaves the buffer as it was. -/
theorem filled_of_error {ctx : Context} {buffer : Bytes} {offset : Int} {w : World σ}
    {cause : FsError} (h : ctx.told b (r.readAt buffer offset) w = .error cause) :
    r.filled ctx b buffer offset w = (.error cause, buffer) := by
  rw [told_readAt] at h
  rw [filled_eq] at h ⊢
  cases hfetch : ctx.told b (r.fetch buffer.length offset) w with
  | ok fetched =>
    rw [hfetch] at h
    cases h
  | error cause' =>
    rw [hfetch] at h
    obtain rfl : cause' = cause := Except.error.inj h
    rfl

-- ---------------------------------------------------------------------------
-- On either backend
-- ---------------------------------------------------------------------------

/-- What the reader of an object with this payload knows without asking the backend, and what it
does not do without an answer. -/
structure Silent (k : BackendKind) (r : Reader) (payload : Bytes) (w : World k.Store) : Prop where
  negative : ∀ (ctx : Context) buffer offset, offset < 0 →
    ctx.told k.backend (r.readAt buffer offset) w =
        .error (.invalid r.path "negative read offset") ∧
      ctx.callsMade k.backend (r.readAt buffer offset).run w = 0
  /-- Whatever a read fails for, its buffer stays as it was. -/
  untouched : ∀ (ctx : Context) buffer offset cause,
    ctx.told k.backend (r.readAt buffer offset) w = .error cause →
      r.filled ctx k.backend buffer offset w = (.error cause, buffer)
  nothing : ∀ (ctx : Context) buffer (offset : Nat), (readInto payload buffer offset).count = 0 →
    ctx.told k.backend (r.readAt buffer offset) w = .ok (readInto payload buffer offset) ∧
      ctx.callsMade k.backend (r.readAt buffer offset).run w = 0

/-- The reader gives access to just this payload, as long as its object is there. -/
structure Exact (k : BackendKind) (r : Reader) (payload : Bytes) (w : World k.Store) : Prop where
  /-- A read gets what there is and fits, with one call if that is anything. -/
  read : ∀ (ctx : Context) buffer (offset : Nat), ctx.Live →
    ctx.told k.backend (r.readAt buffer offset) w = .ok (readInto payload buffer offset) ∧
      ctx.callsMade k.backend (r.readAt buffer offset).run w =
        if 0 < (readInto payload buffer offset).count then 1 else 0
  /-- Reading on until the end is reported takes as many reads as there are blocks, and one if
  there are none. -/
  whole : ∀ (ctx : Context) buffer bound, ctx.Live → buffer ≠ [] →
    ctx.told k.backend (r.readBlocks buffer bound 0) w =
        (if max 1 ((payload.length + buffer.length - 1) / buffer.length) ≤ bound then .ok payload
        else .error (.invalid r.path "the end is not reached")) ∧
      ctx.callsMade k.backend (r.readBlocks buffer bound 0).run w =
        min bound ((payload.length + buffer.length - 1) / buffer.length)

/-- The object of the reader is gone, which is found out by any read that would get something. -/
structure Gone (k : BackendKind) (r : Reader) (payload : Bytes) (w : World k.Store) : Prop where
  read : ∀ (ctx : Context) buffer (offset : Nat), ctx.Live →
    0 < (readInto payload buffer offset).count →
    ctx.told k.backend (r.readAt buffer offset) w = .error (.notFound r.path) ∧
      r.filled ctx k.backend buffer offset w = (.error (.notFound r.path), buffer) ∧
      ctx.callsMade k.backend (r.readAt buffer offset).run w = 1

variable {k : BackendKind} {m : Memory.Store} {o : Memory.StoredObject} {w : World k.Store}

theorem silent {payload : Bytes} (hsize : r.entry.size = payload.length) (w : World k.Store) :
    r.Silent k payload w where
  negative ctx buffer offset h := by
    rw [r.readAt_negative buffer h]
    exact ⟨rfl, rfl⟩
  untouched _ _ _ _ h := filled_of_error h
  nothing ctx buffer offset h := by
    rw [readAt_nothing hsize h]
    exact ⟨rfl, rfl⟩

theorem Opened.exact (h : r.Opened m o) (hheld : k.Holds w m) (hd : w.host.ids.Distinct) :
    r.Exact k o.payload w where
  read ctx buffer offset hlive := by
    have hread := readAt_spends k.faithful h buffer offset
    exact ⟨hread.toReads.told hheld hd hlive, hread.costs.calls hheld hd hlive⟩
  whole ctx buffer bound hlive hbuffer := by
    have hread := readBlocks_spends k.faithful h hbuffer bound 0
    exact ⟨hread.toReads.told hheld hd hlive, hread.costs.calls hheld hd hlive⟩

theorem gone {payload : Bytes} (hsize : r.entry.size = payload.length) (hheld : k.Holds w m)
    (hgone : m.object? r.entry.bucket r.entry.id = none) (hd : w.host.ids.Distinct) :
    r.Gone k payload w where
  read ctx buffer offset hlive hsome := by
    have hinside : 0 < min buffer.length (r.entry.size - offset) := by rwa [hsize]
    have hread := readAt_gone k.faithful hgone hinside
    have htold := hread.toReads.told hheld hd hlive
    exact ⟨htold, filled_of_error htold, hread.costs.calls hheld hd hlive⟩

/-- A window of this payload is streamed in these pieces. -/
structure Delivers (k : BackendKind) (r : Reader) (payload : Bytes) (w : World k.Store)
    (ctx : Context) (offset : Nat) (limit : Option Nat) (chunk : Nat) (pieces : List Bytes) :
    Prop where
  length : r.windowLength offset limit =
    (limit.elim payload.length fun limit => min (offset + limit) payload.length) - offset
  /-- A sum that is cut off at the largest number of 64 bits leads to the same end. -/
  saturating : ∀ bound, limit = some bound →
    r.windowEnd offset limit = min (min (offset + bound) (2 ^ 64 - 1)) payload.length
  cut : Bytes.CutInto (max 1 chunk) (payload.slice offset (r.windowLength offset limit)) pieces
  told : (ctx.run k.backend (r.stream offset limit chunk) w).1 = (pieces, none)
  /-- The stream ends for no other reason than that the window does. -/
  ending : (ctx.run k.backend (r.streamEnding offset limit chunk) w).1 = (pieces, .delivered)
  calls : ctx.callsMade k.backend (r.stream offset limit chunk) w = pieces.length
  /-- The calls are for ranges of the object. -/
  ranges : (r.stream offset limit chunk).Confined
    (fun c => ∃ offset length, c = .getRange r.entry.bucket r.entry.id offset length)
    fun _ => True

theorem Opened.delivers (h : r.Opened m o) (hheld : k.Holds w m) (hd : w.host.ids.Distinct)
    (hmax : o.payload.length ≤ Decimal.maxInt64 + 1) {ctx : Context} (hlive : ctx.Live)
    (offset : Nat) (limit : Option Nat) (chunk : Nat) :
    r.Delivers k o.payload w ctx offset limit chunk
      (Bytes.pieces chunk (o.payload.window offset limit)) where
  length := by
    rw [windowLength, ← h.size]
    cases limit <;> rfl
  saturating := by
    rintro bound rfl
    rw [← h.size]
    refine r.windowEnd_saturating offset bound ?_
    rw [h.size]
    exact Nat.lt_of_le_of_lt hmax (by decide)
  cut := by
    rw [windowLength_eq h, Bytes.slice_length_window, Nat.max_comm]
    exact Bytes.cutInto_pieces chunk _
  told := ((stream_costs k.faithful h offset limit chunk hmax).sees hheld hd hlive).1
  ending := ((streamEnding_costs k.faithful h offset limit chunk hmax).sees hheld hd hlive).1
  calls := (stream_costs k.faithful h offset limit chunk hmax).calls hheld hd hlive
  ranges := piecesFrom_confined (fun offset length => ⟨offset, length, rfl⟩) _ _ _ _

end Reader

variable {k : BackendKind} {start stored w : World k.Store} {before after : List Deed}
  {bucket : BucketId} {id : ObjectId} {info : ObjectMeta}

/-- What has become of an object that was stored once. -/
theorem stored_object_followed (hstart : k.Empty start)
    (hbefore : k.backend.Run start before stored)
    (hstored : (k.backend.call (.headObject bucket id) stored).answer = some (.ok info))
    (hafter : k.backend.Run stored after w) (hd : w.host.ids.Distinct) :
    ∃ m₀ o m, k.Holds stored m₀ ∧ m₀.object? bucket id = some o ∧ o.info = info ∧
      k.Holds w m ∧
      ((∀ d ∈ after, ¬d.Removes bucket id) → m.object? bucket id = some o) ∧
      ((∃ d ∈ after, d.Removes bucket id) → m.object? bucket id = none) := by
  have hb := k.faithful
  have hd₀ : stored.host.ids.Distinct := hd.of_extends (hb.atomic.extends_of_run hafter)
  obtain ⟨m₀, hm₀, hsound, -⟩ := hb.atomic.run_recounts Memory.recounts_oneHome [] hbefore
    ⟨_, hstart.holds, hb.sound hstart.holds, Memory.oneHome_empty⟩ hd₀
  rw [hb.answer_head hm₀ hd₀] at hstored
  cases ho : m₀.object? bucket id with
  | none =>
    rw [ho] at hstored
    cases hstored
  | some o =>
    rw [ho] at hstored
    have hissued := hsound.issued_of_object? (Option.isSome_iff_exists.mpr ⟨o, ho⟩)
    obtain ⟨m, hm, hfollows⟩ := hb.run_follows hafter hm₀ hissued hd bucket
    exact ⟨m₀, o, m, hm₀, ho, Except.ok.inj (Option.some.inj hstored), hm,
      fun hkept => (hfollows.kept hkept).trans ho, hfollows.gone⟩

/-- The backend has this payload under the two identifiers. -/
def Backend.Serves {σ : Type} (b : Backend (World σ)) (bucket : BucketId) (id : ObjectId)
    (payload : Bytes) (w : World σ) : Prop :=
  (b.call (.getRange bucket id 0 payload.length) w).answer = some (.ok payload)

theorem Faithful.serves {σ : Type} {b : Backend (World σ)}
    {holds : World σ → Memory.Store → Prop} {m : Memory.Store} {o : Memory.StoredObject}
    {w : World σ} (hb : Faithful b holds) (h : holds w m) (hd : w.host.ids.Distinct)
    (ho : m.object? bucket id = some o) : b.Serves bucket id o.payload w := by
  unfold Backend.Serves
  rw [hb.answer_looked h hd (.getRange bucket id 0 o.payload.length) trivial rfl]
  simp [Memory.Store.range, ho, Bytes.slice]

/-- An object that has been stored is opened by its identifiers, and whichever way it is named, a
reader that is handed out for it has its metadata. Any such reader reads exactly what it asks for:
nothing and without a call where there is nothing to read, else what is there, or that the object
has been removed since. -/
theorem stored_object_read_exactly (hstart : k.Empty start)
    (hbefore : k.backend.Run start before stored)
    (hstored : (k.backend.call (.headObject bucket id) stored).answer = some (.ok info))
    (hafter : k.backend.Run stored after w) (hd : w.host.ids.Distinct) :
    ∃ payload : Bytes, payload.length = info.size ∧
      k.backend.Serves bucket id payload stored ∧
      (∀ (g : Gateway) (ctx : Context), ctx.Live →
        ctx.told k.backend (g.dispatch (.get (.object bucket.text id.text))) stored =
          .ok (.reader ⟨.ofMeta g.now info, (FsPath.object bucket.text id.text).text⟩)) ∧
      (∀ (g : Gateway) (ctx : Context) (path : FsPath) (r : Reader),
        ctx.told k.backend (g.dispatch (.get path)) stored = .ok (.reader r) →
          r.entry.bucket = bucket → r.entry.id = id → r = ⟨.ofMeta g.now info, path.text⟩) ∧
      ∀ (now : Int) (path : String),
        let r : Reader := ⟨.ofMeta now info, path⟩
        r.Silent k payload w ∧
        ((∀ d ∈ after, ¬d.Removes bucket id) → r.Exact k payload w) ∧
        ((∃ d ∈ after, d.Removes bucket id) → r.Gone k payload w) := by
  obtain ⟨m₀, o, m, hm₀, ho, rfl, hm, hkept, hgone⟩ :=
    stored_object_followed hstart hbefore hstored hafter hd
  have hb := k.faithful
  have hd₀ : stored.host.ids.Distinct := hd.of_extends (hb.atomic.extends_of_run hafter)
  obtain ⟨hbucket, hid, hsize⟩ := (hb.sound hm₀).filed_of_object? ho
  refine ⟨o.payload, hsize.symm, hb.serves hm₀ hd₀ ho, fun g ctx hlive => ?_,
    fun g ctx path r hopened hbucket' hid' => ?_,
    fun now path => ⟨Reader.silent hsize w, fun h => ?_, fun h => ?_⟩⟩
  · exact (g.get_reads_ids hb (hb.healthy hm₀) (hb.sound hm₀) ho).told hm₀ hd₀ hlive
  · have hpeeks : (g.dispatch (.get path)).Peeks fun r => ∀ w, r ≠ .writer w :=
      g.dispatch_peeks nofun
    have htells := g.get_hands_out hb (hb.healthy hm₀) (hb.sound hm₀) path hm₀
      ((hpeeks.host k ctx stored).symm ▸ hd₀)
    obtain ⟨_, ⟨o', ho', rfl⟩, hreader⟩ := htells.2 _ hopened
    obtain rfl := Response.reader.inj hreader
    -- Objects are told apart by the identifiers that a reader has.
    have hsame : m₀.object? o'.info.bucket o'.info.id = some o := by
      rwa [show o'.info.bucket = bucket from hbucket', show o'.info.id = id from hid']
    rw [Option.some.inj (ho'.symm.trans hsame)]
  · exact ((hb.sound hm).opened (hkept h) now path).exact hm hd
  · refine Reader.gone hsize hm ?_ hd
    change m.object? o.info.bucket o.info.id = none
    rw [hbucket, hid, hgone h]

/-- Three bytes in memory are read while they are there, and missed when they are deleted. -/
theorem stored_object_read_exactly_deleted :
    let b := BackendKind.memory.backend
    let start : World Memory.Store := ⟨{ ids := ⟨BitVec.ofNat 128, 0⟩ }, {}⟩
    let stored := b.after start [.putBucket { owner := Id.nil },
      .putObject { bucket := ⟨0⟩, owner := Id.nil } (.ofChunks [[1, 2], [3]])]
    let kept := b.after stored.2 [.searchObjects ⟨0⟩ []]
    let later := b.after stored.2 [.searchObjects ⟨0⟩ [], .deleteObject ⟨0⟩ ⟨1⟩]
    let info : ObjectMeta := ⟨⟨1⟩, ⟨0⟩, Id.nil, 3, {}⟩
    let r : Reader := ⟨.ofMeta 0 info, "/b/f"⟩
    BackendKind.memory.Empty start ∧ b.Run start stored.1 stored.2 ∧
    (b.call (.headObject ⟨0⟩ ⟨1⟩) stored.2).answer = some (.ok info) ∧
    (b.Run stored.2 kept.1 kept.2 ∧ kept.2.host.ids.Distinct ∧
      (∀ d ∈ kept.1, ¬d.Removes ⟨0⟩ ⟨1⟩) ∧ ∃ payload : Bytes, payload.length = 3 ∧
        b.Serves ⟨0⟩ ⟨1⟩ payload stored.2 ∧ r.Exact .memory payload kept.2) ∧
    b.Run stored.2 later.1 later.2 ∧ later.2.host.ids.Distinct ∧
      (∃ d ∈ later.1, d.Removes ⟨0⟩ ⟨1⟩) ∧ ∃ payload : Bytes, payload.length = 3 ∧
        b.Serves ⟨0⟩ ⟨1⟩ payload stored.2 ∧ r.Gone .memory payload later.2 := by
  intro b start stored kept later info r
  have hempty : BackendKind.memory.Empty start := ⟨rfl, rfl, rfl⟩
  have hbefore : b.Run start stored.1 stored.2 := b.run_after _ _
  have hstored : (b.call (.headObject ⟨0⟩ ⟨1⟩) stored.2).answer = some (.ok info) := rfl
  have hkept : b.Run stored.2 kept.1 kept.2 := b.run_after _ _
  have hlater : b.Run stored.2 later.1 later.2 := b.run_after _ _
  have hd : kept.2.host.ids.Distinct := IdSupply.distinct_counting (n := 2) (by decide)
  have hd' : later.2.host.ids.Distinct := IdSupply.distinct_counting (n := 2) (by decide)
  have hstays : ∀ d ∈ kept.1, ¬d.Removes ⟨0⟩ ⟨1⟩ := by
    intro d hmem hremoves
    obtain rfl := List.mem_singleton.mp hmem
    cases hremoves
  have hremoved : ∃ d ∈ later.1, d.Removes ⟨0⟩ ⟨1⟩ :=
    ⟨_, List.mem_cons_of_mem _ List.mem_cons_self, .object⟩
  obtain ⟨payload, hlength, hserves, -, -, hreader⟩ :=
    stored_object_read_exactly hempty hbefore hstored hkept hd
  obtain ⟨payload', hlength', hserves', -, -, hreader'⟩ :=
    stored_object_read_exactly hempty hbefore hstored hlater hd'
  exact ⟨hempty, hbefore, hstored,
    ⟨hkept, hd, hstays, payload, hlength, hserves, (hreader 0 "/b/f").2.1 hstays⟩,
    hlater, hd', hremoved, payload', hlength', hserves', (hreader' 0 "/b/f").2.2 hremoved⟩

/-- As long as an object is not removed, every window of it is streamed to its end. Offsets of
a stream are signed numbers of 64 bits, so the object must not be longer than they reach. -/
theorem stored_object_streamed (hstart : k.Empty start)
    (hbefore : k.backend.Run start before stored)
    (hstored : (k.backend.call (.headObject bucket id) stored).answer = some (.ok info))
    (hsize : info.size < 2 ^ 63) (hafter : k.backend.Run stored after w)
    (hkept : ∀ d ∈ after, ¬d.Removes bucket id) (hd : w.host.ids.Distinct) :
    ∃ payload : Bytes, payload.length = info.size ∧
      k.backend.Serves bucket id payload stored ∧
      ∀ (now : Int) (path : String) (ctx : Context) (offset : Nat) (limit : Option Nat)
        (chunk : Nat), ctx.Live →
        ∃ pieces, Reader.Delivers k ⟨.ofMeta now info, path⟩ payload w ctx offset limit chunk
          pieces := by
  obtain ⟨m₀, o, m, hm₀, ho, rfl, hm, hstays, -⟩ :=
    stored_object_followed hstart hbefore hstored hafter hd
  have hb := k.faithful
  have hd₀ : stored.host.ids.Distinct := hd.of_extends (hb.atomic.extends_of_run hafter)
  obtain ⟨-, -, hlength⟩ := (hb.sound hm₀).filed_of_object? ho
  refine ⟨o.payload, hlength.symm, hb.serves hm₀ hd₀ ho,
    fun now path ctx offset limit chunk hlive => ?_⟩
  have hopened := (hb.sound hm).opened (hstays hkept) now path
  have hmax : o.payload.length ≤ Decimal.maxInt64 + 1 := by
    rw [← hlength, show Decimal.maxInt64 + 1 = 2 ^ 63 from rfl]
    exact Nat.le_of_lt hsize
  exact ⟨_, hopened.delivers hm hd hmax hlive offset limit chunk⟩

/-- Two bytes of three are streamed one by one. -/
theorem stored_object_streamed_bytewise :
    let b := BackendKind.memory.backend
    let start : World Memory.Store := ⟨{ ids := ⟨BitVec.ofNat 128, 0⟩ }, {}⟩
    let stored := b.after start [.putBucket { owner := Id.nil },
      .putObject { bucket := ⟨0⟩, owner := Id.nil } (.ofChunks [[1, 2], [3]])]
    let w := b.after stored.2 [.searchObjects ⟨0⟩ []]
    let info : ObjectMeta := ⟨⟨1⟩, ⟨0⟩, Id.nil, 3, {}⟩
    BackendKind.memory.Empty start ∧ b.Run start stored.1 stored.2 ∧
    (b.call (.headObject ⟨0⟩ ⟨1⟩) stored.2).answer = some (.ok info) ∧ info.size < 2 ^ 63 ∧
    b.Run stored.2 w.1 w.2 ∧ (∀ d ∈ w.1, ¬d.Removes ⟨0⟩ ⟨1⟩) ∧ w.2.host.ids.Distinct ∧
    ∃ payload : Bytes, payload.length = 3 ∧ b.Serves ⟨0⟩ ⟨1⟩ payload stored.2 ∧
      ∃ pieces, Reader.Delivers .memory ⟨.ofMeta 0 info, "/b/f"⟩ payload w.2 {} 1 (some 5) 0
        pieces := by
  intro b start stored w info
  have hempty : BackendKind.memory.Empty start := ⟨rfl, rfl, rfl⟩
  have hbefore : b.Run start stored.1 stored.2 := b.run_after _ _
  have hstored : (b.call (.headObject ⟨0⟩ ⟨1⟩) stored.2).answer = some (.ok info) := rfl
  have hsize : info.size < 2 ^ 63 := by decide
  have hafter : b.Run stored.2 w.1 w.2 := b.run_after _ _
  have hd : w.2.host.ids.Distinct := IdSupply.distinct_counting (n := 2) (by decide)
  have hkept : ∀ d ∈ w.1, ¬d.Removes ⟨0⟩ ⟨1⟩ := by
    intro d hmem hremoves
    obtain rfl := List.mem_singleton.mp hmem
    cases hremoves
  obtain ⟨payload, hlength, hserves, hstream⟩ :=
    stored_object_streamed hempty hbefore hstored hsize hafter hkept hd
  exact ⟨hempty, hbefore, hstored, hsize, hafter, hkept, hd, payload, hlength, hserves,
    hstream 0 "/b/f" {} 1 (some 5) 0 Context.live_default⟩

end ObjectGateway
