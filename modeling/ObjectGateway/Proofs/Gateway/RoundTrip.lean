import ObjectGateway.Proofs.Gateway.Reader
import ObjectGateway.Proofs.Gateway.Resolve
import ObjectGateway.Proofs.Gateway.Writers
/-!
# What is put is what one gets

A client that has put an object gets back, by its identifier, just what was written, in
blocks or as a stream. By its name one gets the first object of that name. Nothing else
changes, but for the new last entry of a listing in which the name was not yet shown.
-/
namespace ObjectGateway

/-! ## One object more -/

namespace Memory

variable {m : Store} {found : StoredBucket} {o : StoredObject}

def StoredBucket.add (found : StoredBucket) (o : StoredObject) : StoredBucket :=
  found.onObjects (· ++ [o])

theorem StoredBucket.roots_add (found : StoredBucket) (hroot : o.parent = none) :
    (found.add o).roots = found.roots ++ [o] := by
  simp [roots, add, onObjects, hroot]

/-- The new object is found by its identifier. -/
theorem StoredBucket.resolve_add_text (hnew : found.find? o.info.id = none) :
    (found.add o).resolve o.info.id.text = some o := by
  unfold resolve
  rw [Id.parse?_text]
  simp only [find?] at hnew
  simp [find?, add, onObjects, List.find?_append, hnew]

/-- By a name the new object is found when there was none before. -/
theorem StoredBucket.resolve_add_name (found : StoredBucket) (hroot : o.parent = none)
    (hname : (Id.parse? o.name : Option ObjectId) = none) :
    (found.add o).resolve o.name =
      some ((found.roots.find? fun o' => o'.name == o.name).getD o) := by
  unfold resolve
  rw [hname]
  simp only [roots_add found hroot, List.find?_append]
  cases found.roots.find? fun o' => o'.name == o.name <;> simp

/-- An object, labelled `n`, that is put into the bucket `found` of the store, where the
segment leads. -/
structure Store.Receives (m : Store) (owner : OwnerId) (segment n : String)
    (found : StoredBucket) (o : StoredObject) : Prop where
  resolved : m.resolve owner segment = some found
  bucket : o.info.bucket = found.info.id
  root : o.parent = none
  label : ∃ now, o.info.attributes = .named Attributes.fileNameKey n now
  fresh : ∀ bucket, m.object? bucket o.info.id = none

namespace Store.Receives

variable {owner : OwnerId} {segment n : String} (h : m.Receives owner segment n found o)

include h

theorem name_eq : o.name = n := by
  obtain ⟨now, hattributes⟩ := h.label
  simp [StoredObject.name, hattributes, Attributes.get?_named Attributes.fileNameKey_ne]

theorem find?_eq_none {ids : IdSupply} (hsound : m.Sound ids) : found.find? o.info.id = none := by
  rw [← Store.object?_of_bucket? (hsound.bucket?_of_mem (Store.mem_of_resolve h.resolved))]
  exact h.fresh found.info.id

theorem resolve_addObject : (m.addObject o).resolve owner segment = some (found.add o) := by
  rw [Store.addObject, Store.resolve_onObjects, h.resolved, h.bucket]
  simp [StoredBucket.add]

/-- Every other object is there as it was. -/
theorem object?_addObject_ne {bucket : BucketId} {id : ObjectId}
    (hother : ¬(bucket = found.info.id ∧ id = o.info.id)) :
    (m.addObject o).object? bucket id = m.object? bucket id := by
  rw [Store.object?_addObject, h.bucket, if_neg, Option.or_none]
  exact fun hsame => hother ⟨hsame.1, hsame.2.1⟩

/-- A segment that leads elsewhere leads there still. -/
theorem resolve_addObject_ne {segment' : String}
    (hother : ∀ b, m.resolve owner segment' = some b → b.info.id ≠ found.info.id) :
    (m.addObject o).resolve owner segment' = m.resolve owner segment' := by
  rw [Store.addObject, Store.resolve_onObjects, h.bucket]
  cases hfind : m.resolve owner segment' with
  | none => rfl
  | some b => simp [hother b hfind]

end Store.Receives
end Memory

namespace Gateway

variable {m : Memory.Store} {o : Memory.StoredObject} (g : Gateway)

theorem objectsIn_add (found : Memory.StoredBucket) (hroot : o.parent = none) :
    g.objectsIn (found.add o) =
      if o.name ∈ (g.objectsIn found).map ObjectEntry.name then g.objectsIn found
      else g.objectsIn found ++ [g.objectEntry o] := by
  have hnames : (g.objectsIn found).map ObjectEntry.name =
      (Listing.distinct Memory.StoredObject.name found.roots).map Memory.StoredObject.name := by
    rw [objectsIn, List.map_map]
    rfl
  rw [hnames]
  simp only [Listing.mem_map_distinct, objectsIn, found.roots_add hroot, Listing.distinct_append]
  split <;> simp

/-- The buckets that are listed stay the same. -/
theorem bucketsIn_addObject (m : Memory.Store) (o : Memory.StoredObject) :
    g.bucketsIn (m.addObject o) = g.bucketsIn m := by
  have hinfo : ∀ b : Memory.StoredBucket,
      (if b.info.id = o.info.bucket then b.add o else b).info = b.info := by
    intro b
    split <;> rfl
  have hbuckets : (m.addObject o).buckets =
      m.buckets.map fun b => if b.info.id = o.info.bucket then b.add o else b := rfl
  simp only [bucketsIn, hbuckets, List.filter_map, Function.comp_def, hinfo, Listing.distinct_map,
    List.map_map, bucketEntry]
  simp only [Memory.StoredBucket.name, hinfo]
  rfl

/-! ## Reading all of an object -/

/-- Open the object of a path and read it to its end, with one buffer. -/
def readAll (g : Gateway) (path : FsPath) (buffer : Bytes) : FsProgram Bytes := do
  match ← g.dispatch (.get path) with
  | .reader r => r.readBlocks buffer (r.entry.size + 1) 0
  | _ => throw (.notAFile path.text)

/-- Open the object of a path and stream it: the pieces, and the failure that broke the
stream off, if any. -/
def streamAll (g : Gateway) (path : FsPath) (chunk : Nat) :
    FsProgram (List Bytes × Option FsError) := do
  match ← g.dispatch (.get path) with
  | .reader r => ExceptT.lift (r.stream 0 none chunk)
  | _ => throw (.notAFile path.text)

variable {σ : Type} {b : Backend (World σ)} {holds : World σ → Memory.Store → Prop}
  {ids : IdSupply} {segment name : String} {found : Memory.StoredBucket}

/-- An object that a path is resolved to. -/
structure At (g : Gateway) (m : Memory.Store) (segment name : String)
    (found : Memory.StoredBucket) (o : Memory.StoredObject) : Prop where
  bucket : m.resolve g.settings.owner segment = some found
  object : found.resolve name = some o

def readerOf (g : Gateway) (segment name : String) (o : Memory.StoredObject) : Reader :=
  ⟨g.objectEntry o, (FsPath.object segment name).text⟩

variable {g}

theorem At.opened (hat : g.At m segment name found o) (hm : m.InOrder ids) :
    (g.readerOf segment name o).Opened m o := by
  have hfound := Memory.Store.mem_of_resolve hat.bucket
  have ho := Memory.StoredBucket.mem_of_resolve hat.object
  have hin := hm.sound.inside found hfound
  refine ⟨?_, hin.sized o ho⟩
  have hplace : o.info.bucket = found.info.id := hin.filed o ho
  change m.object? o.info.bucket o.info.id = some o
  rw [hplace, Memory.Store.object?_of_bucket? (hm.sound.bucket?_of_mem hfound),
    hin.find?_of_mem ho]

theorem At.get_reads (hb : Faithful b holds) (hm : m.InOrder ids)
    (hat : g.At m segment name found o) :
    FsProgram.Reads b holds m (g.dispatch (.get (.object segment name)))
      (.ok (.reader (g.readerOf segment name o))) := by
  rw [g.dispatch_eq rfl]
  have hopen := (g.openReader_reads hb hm segment name).map hb Response.reader
  simp only [atBucket, hat.bucket, hat.object] at hopen
  exact hopen

theorem At.readAll_reads (hb : Faithful b holds) (hm : m.InOrder ids)
    (hat : g.At m segment name found o) {buffer : Bytes} (hbuffer : buffer ≠ []) :
    FsProgram.Reads b holds m (g.readAll (.object segment name) buffer) (.ok o.payload) := by
  refine (hat.get_reads hb hm).bind_ok hb ?_
  have hopened := hat.opened hm
  have hbound : o.payload.length - 0 < (g.readerOf segment name o).entry.size + 1 := by
    rw [hopened.size]
    omega
  exact Reader.readBlocks_reads hb hopened hbuffer hbound

theorem At.streamAll_sees (hb : Faithful b holds) (hm : m.InOrder ids)
    (hat : g.At m segment name found o) (chunk : Nat)
    (hmax : o.payload.length ≤ Decimal.maxInt64 + 1) :
    (g.streamAll (.object segment name) chunk).run.Sees b holds m
      (.ok (Bytes.pieces chunk o.payload, none)) :=
  (hat.get_reads hb hm).live.bind
    ((Reader.stream_costs hb (hat.opened hm) 0 none chunk hmax).sees.bind (.done _))

theorem At.stat_reads (hb : Faithful b holds) (hm : m.InOrder ids)
    (hat : g.At m segment name found o) :
    FsProgram.Reads b holds m (g.dispatch (.stat (.object segment name)))
      (.ok (.entries [.object (g.objectEntry o)])) := by
  rw [g.dispatch_eq rfl]
  have hstat := (g.stat_object_reads hb hm segment name).map hb
    (fun entry => Response.entries [entry])
  simp only [atBucket, hat.bucket, hat.object] at hstat
  exact hstat

/-- An object is opened by its identifier, wherever it is in its bucket. -/
theorem openReader_text_reads (g : Gateway) (hb : Faithful b holds) (hhealthy : m.Healthy)
    (hsound : m.Sound ids) (hresolve : m.resolve g.settings.owner segment = some found)
    (ho : o ∈ found.objects) :
    FsProgram.Reads b holds m (g.dispatch (.get (.object segment o.info.id.text)))
      (.ok (.reader (g.readerOf segment o.info.id.text o))) := by
  have hfound := Memory.Store.mem_of_resolve hresolve
  have hbucket := g.resolveBucket_reads hb hsound.apart segment
  rw [hresolve] at hbucket
  have hobject := g.fetchObject_reads hb hhealthy found.info.id o.info.id
    (FsPath.object segment o.info.id.text).text
  rw [hsound.apart.object?_of_mem hfound ho] at hobject
  have hresolved : FsProgram.Reads b holds m (g.resolveObject (g.bucketEntry found) o.info.id.text
      (FsPath.object segment o.info.id.text).text) (.ok (g.objectEntry o)) := by
    unfold resolveObject
    rw [Id.parse?_text]
    exact hobject
  have hstat : FsProgram.Reads b holds m (g.stat (.object segment o.info.id.text))
      (.ok (.object (g.objectEntry o))) :=
    hbucket.bind_ok hb (hresolved.map hb Entry.object)
  have hopen : FsProgram.Reads b holds m (g.openReader (.object segment o.info.id.text))
      (.ok (g.readerOf segment o.info.id.text o)) :=
    hstat.bind_ok hb (.pure _)
  rw [g.dispatch_eq rfl]
  exact hopen.map hb Response.reader

end Gateway

/-! ## Before and after -/

/-- What a request is told by an operation. -/
def Context.told {σ α : Type} (ctx : Context) (b : Backend (World σ)) (p : FsProgram α)
    (w : World σ) : Except FsError α :=
  (ctx.run b p.run w).1

open Config (BackendKind)

/-- The object `id` named `n` with this content is new in the bucket that the segment leads
to, between the worlds `w` and `w'`. There `first` was the first object of that name. -/
structure RoundTrip (k : BackendKind) (settings : Settings) (segment n : String)
    (bucket : BucketId) (id : ObjectId) (first : Option Memory.StoredObject) (content : Bytes)
    (w w' : World k.Store) : Prop where
  /-- By its identifier it is read in blocks of any size. -/
  blocks : ∀ (g : Gateway) (ctx : Context) buffer, g.settings = settings → ctx.Live →
    buffer ≠ [] →
    ctx.told k.backend (g.readAll (.object segment id.text) buffer) w' = .ok content
  /-- It is streamed in pieces of any size. The offsets of a stream are signed numbers of 64
  bits, and so are those of the file in which the content was staged. -/
  streamed : ∀ (g : Gateway) (ctx : Context) chunk, g.settings = settings → ctx.Live →
    content.length ≤ Decimal.maxInt64 + 1 →
    ∃ pieces, Bytes.CutInto (max chunk 1) content pieces ∧
      ctx.told k.backend (g.streamAll (.object segment id.text) chunk) w' = .ok (pieces, none)
  shown : ∀ (g : Gateway) (ctx : Context), g.settings = settings → ctx.Live →
    ∃ entry, entry.isDir = false ∧ entry.name = n ∧ entry.size = content.length ∧
      ctx.told k.backend (g.dispatch (.stat (.object segment id.text))) w' =
        .ok (.entries [entry])
  /-- By its name one gets the first object of that name. -/
  named : (Id.parse? n : Option ObjectId) = none →
    ∀ (g : Gateway) (ctx : Context) buffer, g.settings = settings → ctx.Live → buffer ≠ [] →
      ctx.told k.backend (g.readAll (.object segment n) buffer) w' =
        .ok (match first with
          | some o => o.payload
          | none => content)
  others : ∀ (ctx : Context) bucket' id', ctx.Live → ¬(bucket' = bucket ∧ id' = id) →
    (ctx.settle w' (k.backend.call (.headObject bucket' id') w')).1 =
        (ctx.settle w (k.backend.call (.headObject bucket' id') w)).1 ∧
      ∀ offset length,
        (ctx.settle w' (k.backend.call (.getRange bucket' id' offset length) w')).1 =
          (ctx.settle w (k.backend.call (.getRange bucket' id' offset length) w)).1
  /-- A segment that does not lead to this bucket is listed as before. -/
  listings : ∀ (g : Gateway) (ctx : Context) segment', g.settings = settings → ctx.Live →
    (∀ entry, ctx.told k.backend (g.dispatch (.stat (.bucket segment'))) w =
      .ok (.entries [.bucket entry]) → entry.id ≠ some bucket) →
    ctx.told k.backend (g.dispatch (.list (.bucket segment'))) w' =
      ctx.told k.backend (g.dispatch (.list (.bucket segment'))) w
  buckets : ∀ (g : Gateway) (ctx : Context), g.settings = settings → ctx.Live →
    ∃ items, ctx.told k.backend (g.dispatch (.list .root)) w = .ok (.entries items) ∧
      ctx.told k.backend (g.dispatch (.list .root)) w' = .ok (.entries items)
  /-- In the listing of the bucket it comes last, unless its name is shown there already. -/
  listing : ∀ (g : Gateway) (ctx : Context), g.settings = settings → ctx.Live →
    ∃ items entry, entry.isDir = false ∧ entry.name = n ∧ entry.size = content.length ∧
      ctx.told k.backend (g.dispatch (.list (.bucket segment))) w = .ok (.entries items) ∧
      ctx.told k.backend (g.dispatch (.list (.bucket segment))) w' =
        .ok (.entries (if n ∈ items.map Entry.name then items else items ++ [entry]))

theorem FsProgram.Reads.told {σ α : Type} {b : Backend (World σ)}
    {holds : World σ → Memory.Store → Prop} {m : Memory.Store} {p : FsProgram α}
    {r : Except FsError α} {w : World σ} {ctx : Context} (hp : Reads b holds m p r)
    (h : holds w m) (hd : w.host.ids.Distinct) (hlive : ctx.Live) : ctx.told b p w = r :=
  (hp.live h hd hlive).1

variable {k : BackendKind} {settings : Settings} {segment n : String} {w w' : World k.Store}
  {m : Memory.Store} {found : Memory.StoredBucket} {o : Memory.StoredObject}

theorem roundTrip (h : k.Holds w m) (h' : k.Holds w' (m.addObject o)) (hlabelled : m.Labelled)
    (hd : w.host.ids.Distinct) (hd' : w'.host.ids.Distinct)
    (hput : m.Receives settings.owner segment n found o) (hsize : o.info.size = o.payload.length) :
    RoundTrip k settings segment n found.info.id o.info.id
      (found.roots.find? fun o => o.name == n) o.payload w w' := by
  have hb := k.faithful
  have hm : m.InOrder w.host.ids := ⟨hb.healthy h, hb.sound h, hlabelled⟩
  have hm' : (m.addObject o).InOrder w'.host.ids :=
    ⟨hb.healthy h', hb.sound h', hlabelled.addObject hput.root ⟨n, hput.label⟩⟩
  have hname := hput.name_eq
  have hresolve := hput.resolve_addObject
  have htext : ∀ g : Gateway, g.settings = settings →
      g.At (m.addObject o) segment o.info.id.text (found.add o) o := by
    rintro g rfl
    exact ⟨hresolve, Memory.StoredBucket.resolve_add_text (hput.find?_eq_none hm.sound)⟩
  constructor
  case blocks =>
    intro g ctx buffer hg hlive hbuffer
    exact ((htext g hg).readAll_reads hb hm' hbuffer).told h' hd' hlive
  case streamed =>
    intro g ctx chunk hg hlive hmax
    exact ⟨_, Bytes.cutInto_pieces chunk o.payload,
      ((htext g hg).streamAll_sees hb hm' chunk hmax h' hd' hlive).1⟩
  case shown =>
    intro g ctx hg hlive
    exact ⟨.object (g.objectEntry o), rfl, hname, hsize, ((htext g hg).stat_reads hb hm').told h' hd' hlive⟩
  case named =>
    rintro hn g ctx buffer rfl hlive hbuffer
    -- The new object is the last one, so it is found by its name when it is the only one.
    have hat : g.At (m.addObject o) segment n (found.add o)
        ((found.roots.find? fun o' => o'.name == n).getD o) := by
      refine ⟨hresolve, ?_⟩
      have hfind := found.resolve_add_name hput.root (hname ▸ hn)
      rwa [hname] at hfind
    rw [(hat.readAll_reads hb hm' hbuffer).told h' hd' hlive]
    cases found.roots.find? fun o' => o'.name == n <;> rfl
  case others =>
    intro ctx bucket id hlive hother
    have hsame := hput.object?_addObject_ne hother
    constructor
    · rw [(hb.settle_answered (c := .headObject bucket id) h' hd' hlive trivial rfl).1,
        (hb.settle_answered (c := .headObject bucket id) h hd hlive trivial rfl).1]
      simp only [Memory.Store.head, hsame]
      rfl
    · intro offset length
      rw [(hb.settle_answered (c := .getRange bucket id offset length) h' hd' hlive trivial rfl).1,
        (hb.settle_answered (c := .getRange bucket id offset length) h hd hlive trivial rfl).1]
      simp only [Memory.Store.range, hsame]
  case listings =>
    rintro g ctx segment' rfl hlive hother
    rw [(g.dispatch_list_reads hb hm segment').told h hd hlive,
      (g.dispatch_list_reads hb hm' segment').told h' hd' hlive]
    -- A segment that led to this bucket would have been shown with its identifier.
    have helse : ∀ b, m.resolve g.settings.owner segment' = some b →
        b.info.id ≠ found.info.id := by
      intro b hfind hsame
      have hstat := (g.dispatch_stat_bucket_reads hb hm segment').told h hd hlive
      rw [hfind] at hstat
      exact hother (g.bucketEntry b) hstat (congrArg some hsame)
    rw [Gateway.atBucket, hput.resolve_addObject_ne helse]
    rfl
  case buckets =>
    rintro g ctx rfl hlive
    refine ⟨_, (g.dispatch_list_root_reads hb hm).told h hd hlive, ?_⟩
    rw [(g.dispatch_list_root_reads hb hm').told h' hd' hlive, g.bucketsIn_addObject]
  case listing =>
    rintro g ctx rfl hlive
    refine ⟨(g.objectsIn found).map Entry.object, .object (g.objectEntry o), rfl, hname, hsize,
      ?_, ?_⟩
    · rw [(g.dispatch_list_reads hb hm segment).told h hd hlive, Gateway.atBucket, hput.resolved]
      rfl
    · rw [(g.dispatch_list_reads hb hm' segment).told h' hd' hlive, Gateway.atBucket, hresolve]
      have hnames : ((g.objectsIn found).map Entry.object).map Entry.name =
          (g.objectsIn found).map ObjectEntry.name := List.map_map
      rw [hnames, ← hname]
      simp only [g.objectsIn_add found hput.root]
      split <;> simp [Except.map]

/-! ## Sessions -/

namespace Session

variable {σ : Type} {b : Backend (World σ)} {holds : World σ → Memory.Store → Prop}

/-- A put that hands out a writer changes nothing. The writer goes to the bucket that the
segment leads to. -/
theorem step_put (hb : Faithful b holds) {settings : Settings} {s s' : Session σ}
    {m : Memory.Store} {ctx : Context} {now : Int} {segment n : String} {writer : Writer}
    (hm : holds s.world m) (hlabelled : m.Labelled)
    (hput : s.step b settings (.request ctx now (.put (.object segment n))) =
      (.answered (.ok (.writer writer)), s'))
    (hd : s'.world.host.ids.Distinct) :
    holds s'.world m ∧ m.Leads settings.owner segment writer.bucket s'.world.host.ids ∧
      s'.writer? s.writers.length = some writer ∧ writer.name = n ∧ writer.staging = {} := by
  let g := s.gateway b settings now
  have hstep : s.step b settings (.request ctx now (.put (.object segment n))) =
      (.answered (ctx.run b (g.dispatch (.put (.object segment n))).run s.world).1,
        ⟨(ctx.run b (g.dispatch (.put (.object segment n))).run s.world).2, s.writers ++
          handedOut (ctx.run b (g.dispatch (.put (.object segment n))).run s.world).1⟩) := rfl
  rw [hput] at hstep
  obtain ⟨hanswer, rfl⟩ := Prod.mk.inj hstep
  have hanswer := (Outcome.answered.inj hanswer).symm
  have hm₀ : m.InOrder s.world.host.ids := ⟨hb.healthy hm, hb.sound hm, hlabelled⟩
  obtain ⟨hheld, htold⟩ := g.dispatch_put_tells hb hm₀ segment n hm hd
  obtain ⟨found, hfound, hwriter⟩ := htold _ hanswer
  obtain rfl := Response.writer.inj hwriter
  have hmem := Memory.Store.mem_of_resolve hfound
  have hsound := hb.sound hheld
  refine ⟨hheld, ⟨hsound.issued found hmem, ?_⟩, ?_, rfl, rfl⟩
  · intro b hb
    rw [hsound.bucket?_of_mem hmem] at hb
    cases hb
    exact hfound
  · simp [writer?, hanswer, handedOut]

/-- A close that succeeds has stored what was staged. -/
theorem step_close_ok (hb : Faithful b holds) {settings : Settings} {s s' : Session σ}
    {m : Memory.Store} {ctx : Context} {now : Int} {number : Nat} {writer : Writer}
    {id : ObjectId} (hm : holds s.world m) (hwriter : s.writer? number = some writer)
    (hclose : s.step b settings (.close ctx now number) = (.closed (.ok id), s'))
    (hd : s'.world.host.ids.Distinct) :
    (m.bucket? writer.bucket).isSome ∧
      holds s'.world (m.addObject
        (.ofHeader id (writer.header (s.gateway b settings now)) writer.staging.content)) ∧
      ∀ bucket, m.object? bucket id = none := by
  rw [step_close hwriter] at hclose
  obtain ⟨hanswer, rfl⟩ := Prod.mk.inj hclose
  exact hb.run_close_ok hm (Outcome.closed.inj hanswer) hd

/-- Whatever steps a session has come through: the writer that a put of `/b/n` hands out,
closed later, stores one object with the overlay of the writes it accepted. From then on
that object is read back whole, and all else is as it was before the writer was closed.
The put itself changes nothing. -/
theorem put_get_round_trip {k : BackendKind} {settings : Settings} {start : World k.Store}
    {s₀ s₁ s s' : Session k.Store} {log log' : List (Event × Outcome)} {ctx₀ ctx : Context}
    {now₀ now : Int} {segment n : String} {writer : Writer} {id : ObjectId}
    (hstart : k.Empty start) (hrun : Run k.backend settings ⟨start, []⟩ log s₀)
    (hput : s₀.step k.backend settings (.request ctx₀ now₀ (.put (.object segment n))) =
      (.answered (.ok (.writer writer)), s₁))
    (hlater : Run k.backend settings s₁ log' s)
    (hclose : s.step k.backend settings (.close ctx now s₀.writers.length) =
      (.closed (.ok id), s'))
    (hd : s'.world.host.ids.Distinct) :
    (∃ m₀, k.Holds s₀.world m₀ ∧ k.Holds s₁.world m₀) ∧
    ∃ m found content, k.Holds s.world m ∧ m.resolve settings.owner segment = some found ∧
      Staging.IsOverlay (accepted s₀.writers.length log') content ∧
      RoundTrip k settings segment n found.info.id id (found.roots.find? fun o => o.name == n)
        content s.world s'.world := by
  have hb := k.faithful
  have hids₀ : (s₀.step k.backend settings _).2.world.host.ids.Extends s₀.world.host.ids :=
    step_extends hb s₀ (.request ctx₀ now₀ (.put (.object segment n)))
  have hids : (s.step k.backend settings _).2.world.host.ids.Extends s.world.host.ids :=
    step_extends hb s (.close ctx now s₀.writers.length)
  rw [hput] at hids₀
  rw [hclose] at hids
  have hd_s : s.world.host.ids.Distinct := hd.of_extends hids
  have hd₁ : s₁.world.host.ids.Distinct := hd_s.of_extends (hlater.extends_start hb)
  obtain ⟨m₀, hm₀, hlabelled₀⟩ := hrun.keeps hb (Memory.keeps_labelled settings)
    ⟨{}, hstart.holds, Memory.labelled_empty⟩ (hd₁.of_extends hids₀)
  obtain ⟨hm₁, hleads₁, hwriter₁, rfl, hempty⟩ := step_put hb hm₀ hlabelled₀ hput hd₁
  -- Meanwhile the bucket may have been removed, but the segment leads to it if it is there.
  obtain ⟨m, hm, hlabelled, hleads⟩ := hlater.keeps hb
    ((Memory.keeps_labelled settings).and (Memory.keeps_leads _ settings.owner segment writer.bucket))
    ⟨m₀, hm₁, hlabelled₀, hleads₁⟩ hd_s
  cases hwriter : s.writer? s₀.writers.length with
  | none => simp [step, hwriter] at hclose
  | some writer' =>
    -- The writer is what was handed out, with the writes that it has accepted since.
    obtain rfl := hlater.writer_eq hwriter₁ hwriter
    obtain ⟨hbucket, hm', hfresh⟩ := step_close_ok hb hm hwriter hclose hd
    obtain ⟨found, hfound⟩ := Option.isSome_iff_exists.mp hbucket
    obtain ⟨-, hid⟩ := Memory.Store.bucket?_eq_some hfound
    refine ⟨⟨m₀, hm₀, hm₁⟩, m, found, _, hm, hleads.resolved found hfound, ?_,
      roundTrip hm hm' hlabelled hd_s hd ?_ rfl⟩
    · have hoverlay := Staging.content_isOverlay
        ⟨writer.staging.writes ++ accepted s₀.writers.length log'⟩
      rwa [hempty] at hoverlay ⊢
    · exact
        { resolved := hleads.resolved found hfound
          bucket := hid.symm
          root := rfl
          label := ⟨now, rfl⟩
          fresh := hfresh }

/-- The first of these steps: the bucket is made. -/
def bucketSession : Session Memory.Store :=
  (after Memory.backend {} ⟨emptyWorld, []⟩ (gapEvents.take 1)).2

def putSession : Session Memory.Store :=
  (bucketSession.step Memory.backend {} (.request {} 0 (.put (.object "b" "f")))).2

theorem put_get_round_trip_gap :
    BackendKind.memory.Empty emptyWorld ∧ gapClosed.2.world.host.ids.Distinct ∧
      (∃ m₀, BackendKind.memory.Holds bucketSession.world m₀ ∧
        BackendKind.memory.Holds putSession.world m₀) ∧
      ∃ m found content, BackendKind.memory.Holds gapSession.world m ∧
        m.resolve ({} : Settings).owner "b" = some found ∧
        Staging.IsOverlay [(3, [1, 2])] content ∧
        RoundTrip .memory {} "b" "f" found.info.id ⟨1⟩ (found.roots.find? fun o => o.name == "f")
          content gapSession.world gapClosed.2.world := by
  have hstart : BackendKind.memory.Empty emptyWorld := ⟨rfl, rfl, rfl⟩
  have hrun := run_after Memory.backend {} ⟨emptyWorld, []⟩ gapEvents
  have hids := (hrun.step (.close {} 0 0)).extends_start Memory.faithful
  have hd : gapClosed.2.world.host.ids.Distinct :=
    IdSupply.distinct_of_counting hids rfl (by decide +kernel)
  have hput : bucketSession.step Memory.backend {} (.request {} 0 (.put (.object "b" "f"))) =
      (.answered (.ok (.writer { bucket := ⟨0⟩, name := "f", path := "/b/f" })), putSession) :=
    congrArg (Outcome.answered ·, putSession) (by decide +kernel)
  have hwriter : gapSession.writer? 0 =
      some { bucket := ⟨0⟩, name := "f", path := "/b/f", staging := ⟨[(3, [1, 2])]⟩ } := by
    decide +kernel
  have hanswer : gapClosed.1 = .closed (.ok ⟨1⟩) := by
    rw [gapClosed, step_close hwriter]
    exact congrArg Outcome.closed (by decide +kernel)
  have hclose : gapSession.step Memory.backend {} (.close {} 0 0) =
      (.closed (.ok ⟨1⟩), gapClosed.2) := Prod.ext hanswer rfl
  have hfirst : Run Memory.backend {} ⟨emptyWorld, []⟩ _ bucketSession :=
    run_after _ _ _ (gapEvents.take 1)
  have hlater : Run Memory.backend {} putSession _ gapSession :=
    run_after _ _ _ (gapEvents.drop 2)
  have haccepted : accepted bucketSession.writers.length
      (after Memory.backend {} putSession (gapEvents.drop 2)).1 = [(3, [1, 2])] := by
    decide +kernel
  obtain ⟨hkept, m, found, content, hm, hfound, hoverlay, hround⟩ :=
    put_get_round_trip (k := .memory) hstart hfirst hput hlater hclose hd
  exact ⟨hstart, hd, hkept, m, found, content, hm, hfound, haccepted ▸ hoverlay, hround⟩

end Session
end ObjectGateway
