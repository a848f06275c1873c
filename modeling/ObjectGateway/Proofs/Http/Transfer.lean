import ObjectGateway.Proofs.Backend.Settling
import ObjectGateway.Proofs.Gateway.RoundTrip
import ObjectGateway.Proofs.Http.Transitions
/-!
# What is uploaded is what is downloaded

A body that arrives in chunks is staged one chunk behind the other, so however it was split
it is stored as a whole. A window of the object is announced with the length that it has and
sent in pieces. A body that breaks off stores nothing.
-/
namespace ObjectGateway

open Memory (Store StoredBucket StoredObject)
open Config (BackendKind)

-- ---------------------------------------------------------------------------
-- Looking on either backend
-- ---------------------------------------------------------------------------

/-- The command only looks, and for no head but that of the object `id`. -/
def Command.LooksUp (id : ObjectId) (c : Command) : Prop :=
  c.isMutating = false ∧ ∀ bucket id', c = .headObject bucket id' → id' = id

variable {α : Type} {k : BackendKind} {m left : Store} {id : ObjectId}

/-- What has been told to a store in memory does not keep a live request from finding out what
it holds, unless the store answers no call or fails for the head that is looked up. -/
theorem Program.Sees.run_awake {p : Program α} {a : α} {P : α → Prop}
    (hsees : p.Sees k.backend k.Holds m a) (hlooks : p.Confined (Command.LooksUp id) P)
    {w : World k.Store} (hstores : k.Stores w m) (hsound : m.Sound w.host.ids)
    (hd : w.host.ids.Distinct) (hawake : ¬k.Stalled w) (hanswers : k.Answers w id)
    {ctx : Context} (hlive : ctx.Live) : (ctx.run k.backend p w).1 = a := by
  cases k with
  | sqlite => exact (hsees hstores hd hlive).1
  | memory =>
    have hhealed : BackendKind.memory.Holds (Memory.healedWorld w) m :=
      ⟨⟨⟨rfl, rfl⟩, hstores.1, hstores.2⟩, hsound⟩
    have hsame := Memory.run_healed hlooks
      (fun c hc => ⟨hc.1, fun bucket id' hhead => hc.2 bucket id' hhead ▸ hanswers⟩)
      (Bool.eq_false_iff.mpr hawake) ctx
    exact hsame.trans (hsees hhealed hd hlive).1

-- ---------------------------------------------------------------------------
-- The object of an identifier
-- ---------------------------------------------------------------------------

section Reading

variable {σ : Type} {b : Backend (World σ)} {holds : World σ → Store → Prop} {g : Gateway}
  {ids : IdSupply} {segment name : String} {found : StoredBucket} {o : StoredObject}

/-- To open it, its head is looked up and no other. -/
theorem Gateway.openReader_text_confined (g : Gateway) (segment : String) (id : ObjectId) :
    FsProgram.Confined (Command.LooksUp id) (fun response => ∃ r, response = .reader r)
      (g.dispatch (.get (.object segment id.text))) := by
  have hlist : ∀ owner, Command.LooksUp id (.listBuckets owner) := fun _ => ⟨rfl, nofun⟩
  have hget : ∀ bucket, Command.LooksUp id (.getBucket bucket) := fun _ => ⟨rfl, nofun⟩
  have hhead : ∀ bucket, Command.LooksUp id (.headObject bucket id) := by
    refine fun bucket => ⟨rfl, ?_⟩
    rintro _ _ ⟨⟩
    rfl
  have hobject : ∀ bucket path, FsProgram.Confined (Command.LooksUp id) (fun _ => True)
      (g.resolveObject bucket id.text path) := by
    intro bucket path
    unfold resolveObject
    rw [Id.parse?_text]
    cases bucket.id with
    | none => exact .throw _
    | some bucket =>
      exact (FsProgram.Confined.call (hhead bucket) fun _ => trivial).bind fun _ _ => .pure trivial
  have hstat : FsProgram.Confined (Command.LooksUp id) (fun _ => True)
      (g.stat (.object segment id.text)) :=
    (g.resolveBucket_confined hlist hget segment).bind fun bucket _ =>
      (hobject bucket _).map fun _ _ => trivial
  rw [g.dispatch_eq rfl]
  refine FsProgram.Confined.map (P := fun _ => True) (hstat.bind fun entry _ => ?_)
    fun r _ => ⟨r, rfl⟩
  cases entry.object? with
  | some o => exact .pure trivial
  | none => exact .throw _

end Reading

/-- An object as this gateway stores it under a name. -/
def Gateway.newObject (g : Gateway) (bucket : BucketId) (id : ObjectId) (name : String)
    (content : Bytes) : StoredObject :=
  .ofHeader id
    { bucket, owner := g.settings.owner, attributes := .named Attributes.fileNameKey name g.now }
    content

/-- An object that the bucket of a segment has gained is the last one of the bucket to which
the segment leads now. -/
theorem Memory.Store.GainsObject.resolve {found : StoredBucket} {o : StoredObject}
    (h : m.GainsObject found o left) (hm : m.Apart) {owner : OwnerId} {segment : String}
    (hresolve : m.resolve owner segment = some found) :
    left.resolve owner segment = some (found.onObjects (· ++ [o])) := by
  have hfound := Store.mem_of_resolve hresolve
  obtain ⟨front, back, hsplit, hleft⟩ := h
  -- The bucket stands in one place only.
  have hdistinct := hm.buckets
  rw [hsplit] at hdistinct
  have hbuckets : left.buckets = (m.onObjects found.info.id (· ++ [o])).buckets := by
    rw [hleft, Store.onObjects, hsplit]
    exact (map_key_eq hdistinct fun b : StoredBucket =>
      { b with objects := b.objects ++ [o] }).symm
  have hthere := m.resolve_onObjects found.info.id (· ++ [o]) owner segment
  rw [hresolve, Option.map_some, if_pos rfl] at hthere
  rw [← hthere]
  simp only [Store.resolve, Store.bucket?, hbuckets]

namespace Http

open Handler (orFailure)

-- ---------------------------------------------------------------------------
-- Uploads
-- ---------------------------------------------------------------------------

/-- A PUT for the entry at a path. -/
inductive Request.Uploads (r : Request) (path : FsPath) : Prop
  | intro {text : String} {query : List Char} (entry : r.At "PUT" text query)
      (wire : ObjectGateway.Request.ofWire Method.put.name ("/" ++ text) none = .ok (.put path))

/-- Stage a body in a writer, if one was handed out, and close it. -/
def storeBody (g : Gateway) (body : List (Except String Bytes)) :
    ObjectGateway.Response → Handler Response
  | .writer w => stageBody w 0 body >>= storeAll g
  | _ => throw (.ofFailure ⟨500, .failure, "upload did not produce a writer"⟩)

theorem handle_uploads (g : Gateway) {r : Request} {path : FsPath} (h : r.Uploads path) :
    handle g r = (g.dispatch (.put path)).run.bind
      (orFailure fun outcome => (storeBody g r.body outcome).finish) := by
  obtain ⟨entry, wire⟩ := h
  rw [handle_put g entry, putPath, wire, Handler.ofExcept_bind, Handler.finish_ofFs_bind]
  refine congrArg (fun k => (g.dispatch (.put path)).run.bind (orFailure k)) (funext fun outcome => ?_)
  cases outcome <;> rfl

/-- The chunks that have arrived are staged, and the staging goes on behind them. -/
theorem stageBody_arrived (w : Writer) (offset : Nat) (chunks : List Bytes)
    (rest : List (Except String Bytes)) :
    stageBody w offset (chunks.map .ok ++ rest) =
      stageBody { w with staging := ⟨w.staging.writes ++ Staging.successive offset chunks⟩ }
        (offset + chunks.flatten.length) rest := by
  induction chunks generalizing w offset with
  | nil => simp [Staging.successive]
  | cons chunk chunks ih =>
    have hchunk : stageBody w offset ((chunk :: chunks).map .ok ++ rest) =
        stageBody { w with staging := ⟨w.staging.writes ++ [(offset, chunk)]⟩ }
          (offset + chunk.length) (chunks.map .ok ++ rest) := rfl
    rw [hchunk, ih]
    simp [Staging.successive, Nat.add_assoc]

def storedAnswer (id : ObjectId) (size : Nat) : Response :=
  .json 201 (.object [("id", .text id.text), ("size", .number size)])

/-- No failure has the status of success. -/
theorem status_ofFsError_ne (e : FsError) :
    (Response.ofFailure (.ofFsError e)).status ≠ 201 := by
  have hstatus : Failure.statusOf e ≠ 201 := by cases e <;> simp [Failure.statusOf]
  exact hstatus

section Storing

variable {σ : Type} {b : Backend (World σ)} {holds : World σ → Store → Prop} {g : Gateway}
  {segment name : String} {chunks : List Bytes}

/-- Chunks that have been staged are stored as one object. -/
theorem storeBody_brings (hb : Atomic b holds) (hm : m.Apart) {writer : Writer}
    (hopens : g.Opens m (.object segment name) writer) (chunks : List Bytes) :
    Program.Brings b holds m (storeBody g (chunks.map .ok) (.writer writer)).finish
      fun answer left => answer.status = 201 → ∃ id found,
        answer = storedAnswer id chunks.flatten.length ∧
        m.resolve g.settings.owner segment = some found ∧
        m.GainsObject found (g.newObject found.info.id id name chunks.flatten) left := by
  obtain @⟨_, _, found, hresolve, -⟩ := hopens
  let staged : Writer :=
    { bucket := found.info.id, name, path := (FsPath.object segment name).text
      staging := ⟨Staging.successive 0 chunks⟩ }
  have hbody : storeBody g (chunks.map .ok) (.writer
      { bucket := found.info.id, name, path := (FsPath.object segment name).text }) =
        storeAll g staged := by
    have harrived := stageBody_arrived
      { bucket := found.info.id, name, path := (FsPath.object segment name).text } 0 chunks []
    rw [List.append_nil] at harrived
    rw [storeBody, harrived]
    rfl
  rw [hbody, storeAll, Handler.finish_ofFs_bind]
  refine Handler.brings_orFailure hb (Writer.close_stores hm g staged)
    (fun e h => absurd h (status_ofFsError_ne e)) fun id left hstores => .done fun _ => ?_
  obtain ⟨found', hbucket, hgains⟩ := hstores.gains
  obtain rfl : found' = found :=
    Option.some.inj (hbucket.symm.trans (hm.bucket?_of_mem (Store.mem_of_resolve hresolve)))
  have hcontent : staged.staging.content = chunks.flatten := Staging.content_successive chunks
  have hlength : staged.length = chunks.flatten.length := Staging.length_successive chunks
  rw [hcontent] at hgains
  rw [hlength]
  exact ⟨id, _, rfl, hresolve, hgains⟩

/-- An upload whose body ends normally stores what has arrived, or it is not answered with
success. -/
theorem exchange_uploads (hb : Atomic b holds) (hm : m.Apart) {r : Request}
    (h : r.Uploads (.object segment name)) (hbody : r.body = chunks.map .ok) :
    Program.Brings b holds m (exchange g r) fun out left => out.1.status = 201 → ∃ id found,
      out.1 = storedAnswer id chunks.flatten.length ∧
      m.resolve g.settings.owner segment = some found ∧
      m.GainsObject found (g.newObject found.info.id id name chunks.flatten) left := by
  have hanswer : Program.Brings b holds m (handle g r) fun answer left =>
      answer.status = 201 → ∃ id found, answer = storedAnswer id chunks.flatten.length ∧
        m.resolve g.settings.owner segment = some found ∧
        m.GainsObject found (g.newObject found.info.id id name chunks.flatten) left := by
    rw [handle_uploads g h, hbody]
    refine Handler.brings_orFailure hb (g.dispatch_does hm _)
      (fun e h => absurd h (status_ofFsError_ne e)) fun outcome left hdoes => ?_
    cases outcome with
    | writer writer =>
      obtain ⟨-, rfl⟩ := hdoes.opened writer rfl
      exact storeBody_brings hb hm (hdoes.effect.opens writer rfl) chunks
    | _ => exact .done fun h => absurd h (by decide)
  refine hanswer.bind hb fun answer left hstored => ?_
  refine (Program.Ends.brings hb (answer.body.send_confined fun _ _ _ _ => rfl).ends).bind hb ?_
  rintro sent _ ⟨rfl, -⟩
  exact .done hstored

end Storing

-- ---------------------------------------------------------------------------
-- Bodies that break off
-- ---------------------------------------------------------------------------

section Broken

variable {r : Request} {path : FsPath} {chunks : List Bytes} {cause : String}
  {rest : List (Except String Bytes)}

/-- Nothing is made of a body that breaks off. -/
theorem storeBody_broken (g : Gateway) (writer : Writer) :
    (storeBody g (chunks.map .ok ++ .error cause :: rest) (.writer writer)).finish =
      .done (.ofFailure (.badRequest ("reading request body: " ++ cause))) := by
  rw [storeBody, stageBody_arrived]
  rfl

theorem exchange_broken_harmless (g : Gateway) (h : r.Uploads path)
    (hbody : r.body = chunks.map .ok ++ .error cause :: rest) : (exchange g r).Harmless := by
  have hdispatch : (g.dispatch (.put path)).Peeks := by
    unfold Gateway.dispatch
    split
    · exact .throw _
    · exact (g.openWriter_peeks path).map fun _ _ => trivial
  have hanswer : (handle g r).Harmless := by
    rw [handle_uploads g h, hbody]
    refine Program.Within.bind hdispatch.harmless fun result _ => ?_
    cases result with
    | error e => exact trivial
    | ok outcome =>
      cases outcome with
      | writer writer =>
        rw [orFailure, storeBody_broken]
        exact trivial
      | _ => exact trivial
  exact hanswer.bind fun answer _ => answer.body.send_harmless.bind fun _ _ => trivial

/-- The answer of an exchange is that of its handler. -/
theorem answer_exchange {σ : Type} (ctx : Context) (b : Backend (World σ)) (g : Gateway)
    (r : Request) (w : World σ) :
    (ctx.run b (exchange g r) w).1.1 = (ctx.run b (handle g r) w).1 := by
  have hsplit : (exchange g r) = (handle g r).bind fun answer =>
      answer.body.send.bind fun sent => .done (answer, sent) := rfl
  unfold Context.run
  rw [hsplit, Program.run_bind, Program.run_bind]
  rfl

/-- When a writer was handed out, the client is told that its body broke off. -/
theorem answer_broken {σ : Type} {ctx : Context} {b : Backend (World σ)} {g : Gateway}
    {w : World σ} {writer : Writer} (h : r.Uploads path)
    (hbody : r.body = chunks.map .ok ++ .error cause :: rest)
    (hopens : ctx.told b (g.dispatch (.put path)) w = .ok (.writer writer)) :
    (ctx.run b (exchange g r) w).1.1 =
      .ofFailure (.badRequest ("reading request body: " ++ cause)) := by
  rw [answer_exchange, handle_uploads g h, hbody]
  unfold Context.told Context.run at hopens
  unfold Context.run
  rw [Program.run_bind, hopens, orFailure, storeBody_broken]
  rfl

end Broken

-- ---------------------------------------------------------------------------
-- Downloads
-- ---------------------------------------------------------------------------

/-- A GET that reads the entry at a path, with these parameters. -/
inductive Request.Downloads (r : Request) (path : FsPath) (q : Query) : Prop
  | intro {text : String} {query : List Char} (entry : r.At "GET" text query)
      (parsed : Query.parse query = .ok q) (asked : q.op = some "read")
      (wire : ObjectGateway.Request.ofWire Method.get.name ("/" ++ text) none = .ok (.get path))

theorem handle_downloads (g : Gateway) {r : Request} {path : FsPath} {q : Query}
    (h : r.Downloads path q) :
    handle g r = (g.dispatch (.get path)).run.bind
      (orFailure fun outcome => (respond g .get q outcome).finish) := by
  obtain @⟨text, _, entry, parsed, asked, wire⟩ := h
  have hmethod : getMethod q = pure .get := by
    unfold getMethod
    rw [asked]
    rfl
  have hcarry : getPath g ("/" ++ text) q = carry g Method.get.name ("/" ++ text) none q := by
    rw [getPath, hmethod]
    rfl
  rw [handle_get g entry parsed, hcarry, carry, wire, Handler.ofExcept_bind,
    Handler.finish_ofFs_bind]
  rfl

/-- A window of a content has been sent: it was announced with its length, and it was sent to
its end in pieces of one size, but for the last. -/
structure Delivers (maxChunk : Nat) (content : Bytes) (offset : Nat) (length : Option Nat)
    (sent : Response × List Bytes × Option FsError) : Prop where
  status : sent.1.status = 200
  announced : sent.1.contentLength = some sent.2.1.flatten.length
  measured : sent.2.1.flatten.length =
    min (offset + length.getD content.length) content.length - offset
  pieces : Bytes.CutInto (max maxChunk 1) (content.window offset length) sent.2.1
  whole : sent.2.2 = none

section Reading

variable {σ : Type} {b : Backend (World σ)} {holds : World σ → Store → Prop} {g : Gateway}
  {ids : IdSupply} {segment : String} {found : StoredBucket} {o : StoredObject} {r : Request}
  {q : Query}

/-- A live client gets the window that it asks for. -/
theorem exchange_downloads (hb : Faithful b holds) (hhealthy : m.Healthy) (hsound : m.Sound ids)
    (hresolve : m.resolve g.settings.owner segment = some found) (ho : o ∈ found.objects)
    (hmax : o.payload.length ≤ Decimal.maxInt64 + 1)
    (h : r.Downloads (.object segment o.info.id.text) q) :
    ∃ sent, (exchange g r).Sees b holds m sent ∧
      Delivers g.maxChunk o.payload (q.offset.getD 0) q.length sent := by
  have hin := hsound.inside found (Store.mem_of_resolve hresolve)
  have hopened : (g.readerOf segment o.info.id.text o).Opened m o := by
    refine ⟨?_, hin.sized o ho⟩
    have hplace : o.info.bucket = found.info.id := hin.filed o ho
    change m.object? o.info.bucket o.info.id = some o
    rw [hplace]
    exact hsound.apart.object?_of_mem (Store.mem_of_resolve hresolve) ho
  have hopen := g.openReader_text_reads hb hhealthy hsound hresolve ho
  have hsend := (Reader.stream_costs hb hopened (q.offset.getD 0) q.length g.maxChunk hmax).sees
  refine ⟨(readWindow g (g.readerOf segment o.info.id.text o) q,
    Bytes.pieces g.maxChunk (o.payload.window (q.offset.getD 0) q.length), none), ?_, ?_⟩
  · have hanswer : (handle g r).Sees b holds m
        (readWindow g (g.readerOf segment o.info.id.text o) q) := by
      rw [handle_downloads g h]
      exact hopen.live.bind (.done _)
    exact hanswer.bind (hsend.bind (.done _))
  · have hpieces := Bytes.flatten_pieces g.maxChunk (o.payload.window (q.offset.getD 0) q.length)
    exact
      { status := rfl
        announced := by
          dsimp only
          rw [hpieces, ← Reader.windowLength_eq hopened]
          rfl
        measured := by
          dsimp only
          rw [hpieces, Bytes.length_window]
        pieces := Bytes.cutInto_pieces _ _
        whole := rfl }

/-- To read an object by its identifier, its head is looked up and no other. -/
theorem exchange_downloads_confined (g : Gateway) {id : ObjectId}
    (h : r.Downloads (.object segment id.text) q) :
    (exchange g r).Confined (Command.LooksUp id) fun _ => True := by
  have hanswer : (handle g r).Confined (Command.LooksUp id) fun _ => True := by
    rw [handle_downloads g h]
    refine Program.Confined.bind (g.openReader_text_confined segment id) fun result hresult => ?_
    cases result with
    | error e => exact trivial
    | ok outcome =>
      obtain ⟨reader, rfl⟩ := hresult outcome rfl
      exact trivial
  exact hanswer.bind fun answer _ =>
    (answer.body.send_confined fun _ _ _ _ => ⟨rfl, nofun⟩).bind fun _ _ => trivial

end Reading

-- ---------------------------------------------------------------------------
-- There and back
-- ---------------------------------------------------------------------------

/-- An upload by this gateway that was answered with success: it has told how many bytes there
were, and has stored just these behind all other objects of the bucket that the segment leads
to. -/
structure Uploaded (k : BackendKind) (g : Gateway) (m : Store) (segment name : String)
    (content : Bytes) (id : ObjectId) (answer : Response) (left : World k.Store) : Prop where
  answer : answer = storedAnswer id content.length
  stored : ∃ found later, m.resolve g.settings.owner segment = some found ∧ k.Stores left later ∧
    m.GainsObject found (g.newObject found.info.id id name content) later

/-- What an upload has stored can be had by its identifier. -/
theorem download_exact {k : BackendKind} {w : World k.Store} {g : Gateway} {segment name : String}
    {content : Bytes} {found : StoredBucket} (hm : m.Apart)
    (hresolve : m.resolve g.settings.owner segment = some found)
    (hgains : m.GainsObject found (g.newObject found.info.id id name content) left)
    (hstores : k.Stores w left) (hsound : left.Sound w.host.ids) (hd : w.host.ids.Distinct)
    (hawake : ¬k.Stalled w) (hanswers : k.Answers w id)
    (hmax : content.length ≤ Decimal.maxInt64 + 1) {ctx : Context} (hlive : ctx.Live)
    {r : Request} {q : Query} (h : r.Downloads (.object segment id.text) q) {g' : Gateway}
    (hsettings : g'.settings = g.settings) :
    Delivers g'.maxChunk content (q.offset.getD 0) q.length
      (ctx.run k.backend (exchange g' r) w).1 := by
  have hbucket := hgains.resolve hm hresolve
  rw [← hsettings] at hbucket
  obtain ⟨sent, hsees, hdelivers⟩ := exchange_downloads (o := g.newObject found.info.id id name content)
    k.faithful hstores.healthy hsound hbucket (List.mem_append_right _ List.mem_cons_self) hmax h
  have hsent := hsees.run_awake (exchange_downloads_confined g' h) hstores hsound hd hawake hanswers
    hlive
  rw [hsent]
  exact hdelivers

/-- However a body is split, an upload that is answered with success says how many bytes there
were and has stored just these; by the identifier that it tells, every window of them can be
had. The offsets of a stream are signed numbers of 64 bits, and so are those of the file in
which the body was staged. When the body breaks off, nothing is stored, and whoever was allowed
to send it is told. -/
theorem upload_download_exact (k : BackendKind) (w : World k.Store) (g : Gateway) (ctx : Context)
    {r : Request} {segment name : String} (huploads : r.Uploads (.object segment name)) :
    let out := (ctx.run k.backend (exchange g r) w).1
    let left := (ctx.run k.backend (exchange g r) w).2
    (∀ (m : Store) (chunks : List Bytes), k.Stores w m → m.Sound w.host.ids →
      left.host.ids.Distinct → r.body = chunks.map .ok → out.1.status = 201 →
      ∃ id, Uploaded k g m segment name chunks.flatten id out.1 left ∧
        (chunks.flatten.length ≤ Decimal.maxInt64 + 1 → k.Answers left id →
          ∀ (get : Request) (q : Query) (g' : Gateway) (ctx' : Context),
            get.Downloads (.object segment id.text) q → g'.settings = g.settings → ctx'.Live →
            Delivers g'.maxChunk chunks.flatten (q.offset.getD 0) q.length
              (ctx'.run k.backend (exchange g' get) left).1)) ∧
    ∀ (chunks : List Bytes) cause rest, r.body = chunks.map .ok ++ .error cause :: rest →
      k.SameContents w left ∧
      ∀ writer, ctx.told k.backend (g.dispatch (.put (.object segment name))) w =
          .ok (.writer writer) →
        out.1.status = 400 ∧
          out.1 = .ofFailure (.badRequest ("reading request body: " ++ cause)) := by
  intro out left
  constructor
  · intro m chunks hstores hsound hd hbody hstatus
    have huploaded {holds : World k.Store → Store → Prop} (hb : Atomic k.backend holds) {m : Store}
        (hm : m.Apart) (hheld : holds w m) :=
      exchange_uploads (g := g) hb hm huploads hbody hheld hd
    by_cases hstalled : k.Stalled w
    · -- A stalled world can be read as the empty store, in which nothing is resolved.
      obtain ⟨_, -, hnone⟩ := huploaded k.stalled_atomic (m := {}) (by constructor <;> simp) hstalled
      obtain ⟨-, found, -, hresolve, -⟩ := hnone hstatus
      exact absurd (Store.mem_of_resolve hresolve) List.not_mem_nil
    · obtain ⟨stored, ⟨⟨hstores', hsound'⟩, hawake⟩, hanswer⟩ :=
        huploaded k.awake_atomic hsound.apart ⟨⟨hstores, hsound⟩, hstalled⟩
      obtain ⟨id, found, hid, hresolve, hgains⟩ := hanswer hstatus
      refine ⟨id, ⟨hid, found, stored, hresolve, hstores', hgains⟩, ?_⟩
      intro hmax hanswers get q g' ctx' hdownloads hsettings hlive
      exact download_exact hsound.apart hresolve hgains hstores' hsound' hd hawake hanswers hmax
        hlive hdownloads hsettings
  · intro chunks cause rest hbody
    refine ⟨(exchange_broken_harmless g huploads hbody).sameContents (Program.passes_run _ _ _), ?_⟩
    intro writer hopens
    have hbroken : out.1 = _ := answer_broken huploads hbody hopens
    rw [hbroken]
    exact ⟨rfl, rfl⟩

/-- A bucket in memory, told to fail for the head of an object that is not there. -/
def bucketWorld : World Memory.Store :=
  ⟨{ files := ⟨[(["tmp"], .dir)]⟩, ids := ⟨BitVec.ofNat 128, 1⟩ },
    { buckets := [{ info := ⟨⟨0⟩, Id.nil, defaultPolicy, .restricted,
        .named Attributes.nameKey "b" 0⟩ }]
      failingHeads := [⟨5⟩] }⟩

def putBody (body : List (Except String Bytes)) : Request :=
  ⟨"PUT", .resource "/fs/b/f".toList [], body⟩

/-- What is put is asked for from its second byte on, as much as there may be. -/
def getTail : Request :=
  ⟨"GET", .resource "/fs/b/00000000-0000-0000-0000-000000000001".toList
    "op=read&offset=1&length=18446744073709551615".toList, []⟩

/-- An object is uploaded in three chunks, one of them empty, and a window is had that goes on
behind its end. Another upload breaks off. -/
theorem upload_download_exact_chunks :
    let g : Gateway := ⟨{}, 1, 0⟩
    let id : ObjectId := ⟨1⟩
    let tail : Query := { op := some "read", offset := some 1, length := some Decimal.maxUInt64 }
    let put := Context.run {} Memory.backend (exchange g (putBody ([[1, 2], [], [3]].map .ok)))
      bucketWorld
    let broken := Context.run {} Memory.backend
      (exchange g (putBody ([[1, 2]].map .ok ++ .error "gone" :: [.ok [3]]))) bucketWorld
    (∀ body, (putBody body).Uploads (.object "b" "f")) ∧
      BackendKind.memory.Stores bucketWorld bucketWorld.store.healed ∧
      bucketWorld.store.healed.Sound bucketWorld.host.ids ∧ put.2.host.ids.Distinct ∧
      put.1.1.status = 201 ∧ BackendKind.memory.Answers put.2 id ∧
      getTail.Downloads (.object "b" id.text) tail ∧
      Delivers 1 [1, 2, 3] 1 (some Decimal.maxUInt64)
        (Context.run {} Memory.backend (exchange g getTail) put.2).1 ∧
      broken.1.1.status = 400 ∧ BackendKind.memory.SameContents bucketWorld broken.2 := by
  intro g id tail put broken
  have hentry : Route.ofPath? "/fs/b/f".toList = some (.entry "b/f".toList) := by decide +kernel
  have hreadable : Percent.text? "b/f".toList = some "b/f" := by decide +kernel
  have huploads : ∀ body, (putBody body).Uploads (.object "b" "f") := fun _ =>
    ⟨⟨rfl, _, _, rfl, hentry, hreadable⟩, by decide +kernel⟩
  have hstores : BackendKind.memory.Stores bucketWorld bucketWorld.store.healed := ⟨⟨rfl, rfl⟩, rfl⟩
  have hsound : bucketWorld.store.healed.Sound bucketWorld.host.ids := by
    have hissued : bucketWorld.host.ids.Issued (⟨0⟩ : BucketId) := ⟨0, Nat.one_pos, rfl⟩
    constructor
    case distinct => simp [bucketWorld, Store.healed]
    case issued => simpa [bucketWorld, Store.healed] using hissued
    case inside =>
      intro found hfound
      obtain rfl := List.mem_singleton.mp hfound
      constructor <;> simp
  have hd : put.2.host.ids.Distinct :=
    IdSupply.distinct_of_counting (Memory.faithful.run_extends _ _ _) rfl (by decide +kernel)
  have hstatus : put.1.1.status = 201 := by decide +kernel
  have hfailing : put.2.store.failingHeads = [⟨5⟩] := by decide +kernel
  have hanswers : BackendKind.memory.Answers put.2 id := by
    change id ∉ put.2.store.failingHeads
    rw [hfailing]
    decide
  have hroute : Route.ofPath? "/fs/b/00000000-0000-0000-0000-000000000001".toList =
      some (.entry ("b/" ++ id.text).toList) := by decide +kernel
  have hplace : Percent.text? ("b/" ++ id.text).toList = some ("b/" ++ id.text) := by decide +kernel
  have hdownloads : getTail.Downloads (.object "b" id.text) tail :=
    ⟨⟨rfl, _, _, rfl, hroute, hplace⟩, by decide +kernel, rfl, by decide +kernel⟩
  obtain ⟨hput, -⟩ := upload_download_exact .memory bucketWorld g {} (huploads _)
  obtain ⟨id', huploaded, hwindows⟩ := hput bucketWorld.store.healed [[1, 2], [], [3]] hstores hsound
    hd rfl hstatus
  -- There is one object, so this is the one that was stored.
  obtain rfl : id' = id := by
    have hids : put.2.store.buckets.flatMap (·.objects.map (·.info.id)) = [id] := by decide +kernel
    obtain ⟨found, later, -, hlater, front, back, -, hleft⟩ := huploaded.stored
    have hbuckets : put.2.store.buckets = later.buckets := hlater.2
    have hthere : id' ∈ put.2.store.buckets.flatMap (·.objects.map (·.info.id)) := by
      rw [hbuckets, hleft]
      simp [Gateway.newObject, StoredObject.ofHeader]
    exact List.mem_singleton.mp (hids ▸ hthere)
  obtain ⟨-, hbroken⟩ := upload_download_exact .memory bucketWorld g {} (huploads
    ([[1, 2]].map .ok ++ .error "gone" :: [.ok [3]]))
  obtain ⟨hsame, hrefused⟩ := hbroken [[1, 2]] "gone" [.ok [3]] rfl
  have hopens : Context.told {} Memory.backend (g.dispatch (.put (.object "b" "f"))) bucketWorld =
      .ok (.writer { bucket := ⟨0⟩, name := "f", path := "/b/f" }) := by decide +kernel
  exact ⟨huploads, hstores, hsound, hd, hstatus, hanswers, hdownloads,
    hwindows (by decide) hanswers getTail tail g {} hdownloads rfl Context.live_default,
    (hrefused _ hopens).1, hsame⟩

end Http
end ObjectGateway
