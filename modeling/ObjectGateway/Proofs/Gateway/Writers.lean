import ObjectGateway.Proofs.Backend.Kinds
import ObjectGateway.Proofs.Gateway.Session
/-!
# Writers store the overlay of what they accepted

Nothing reaches the store before a writer is closed. Then one object is stored: the
overlay of the writes that this writer accepted, whatever other clients did in between.
-/
namespace ObjectGateway

/-! ## Closing on a faithful backend -/

def Writer.header (g : Gateway) (writer : Writer) : ObjectHeader where
  bucket := writer.bucket
  owner := g.settings.owner
  attributes := .named Attributes.fileNameKey writer.name g.now

/-- The chunks in which what is staged is uploaded. -/
def Writer.chunks (g : Gateway) (writer : Writer) : List Bytes :=
  Bytes.pieces g.maxChunk writer.staging.content

variable {σ : Type} {b : Backend (World σ)} {holds : World σ → Memory.Store → Prop}
  {w : World σ} {m : Memory.Store} {ctx : Context} {g : Gateway} {writer : Writer}

/-- An upload into a bucket that is there stores one object. -/
theorem Memory.serve_putObject {w : World Store} (header : ObjectHeader)
    (h : (w.store.bucket? header.bucket).isSome) (chunks : List Bytes) :
    ∃ lastUpload, Memory.serve w (.putObject header (.ofChunks chunks)) =
      answered (.ok (w.host.draw .object).1, ⟨(w.host.draw .object).2,
        { w.store.addObject (.ofHeader (w.host.draw .object).1 header chunks.flatten) with
          lastUpload }⟩) := by
  obtain ⟨found, hfound⟩ := Option.isSome_iff_exists.mp h
  refine ⟨chunks.map List.length, ?_⟩
  simp only [serve, PayloadStream.drain_ofChunks, upload, hfound]
  rfl

/-- An upload into a bucket that is not there stores nothing. -/
theorem Memory.serve_putObject_refused {w : World Store} (header : ObjectHeader)
    (h : w.store.bucket? header.bucket = none) (chunks : List Bytes) :
    Memory.serve w (.putObject header (.ofChunks chunks)) = looked w (.error .notFound) := by
  simp only [serve, PayloadStream.drain_ofChunks, upload, h]
  rfl

/-- What is staged without a gap at its end is uploaded in pieces. -/
theorem Writer.close_eq (hstaged : writer.staging.content.length = writer.length) :
    writer.close g = FsProgram.call writer.path
      (.putObject (writer.header g) (.ofChunks (writer.chunks g))) := by
  unfold Writer.close
  rw [Staging.upload_eq hstaged]
  rfl

/-- An upload that is carried out stores one object with all that was staged. -/
theorem Faithful.Served.stored (hb : Faithful b holds) (h : holds w m)
    (hbucket : (m.bucket? writer.bucket).isSome) {r : Except BackendError ObjectId × World σ}
    (hserved : Served holds w m (.putObject (writer.header g) (.ofChunks (writer.chunks g))) r)
    (hd : r.2.host.ids.Distinct) :
    ∃ id, r.1 = .ok id ∧
      holds r.2 (m.addObject (.ofHeader id (writer.header g) writer.staging.content)) ∧
      ∀ bucket, m.object? bucket id = none := by
  obtain ⟨lastUpload, hserve⟩ := Memory.serve_putObject (w := ⟨w.host, m⟩) (writer.header g)
    hbucket (writer.chunks g)
  have hanswer := hserved.answer
  have hholds := hserved.holds
  rw [hserved.ids] at hd
  rw [hserve] at hanswer hholds hd
  refine ⟨(w.host.draw .object).1, (Option.some.inj hanswer).symm, ?_,
    (hb.sound h).object?_draw hd⟩
  have hchunks : (writer.chunks g).flatten = writer.staging.content := Bytes.flatten_pieces _ _
  have hhealthy : m.Healthy := hb.healthy h
  rw [← hchunks]
  exact hb.alike hholds hhealthy rfl

/-- Closing a writer stores one object. -/
theorem Faithful.run_close (hb : Faithful b holds) (h : holds w m) (hlive : ctx.Live)
    (hbucket : (m.bucket? writer.bucket).isSome)
    (hstaged : writer.staging.content.length = writer.length)
    (hd : (ctx.run b (writer.close g).run w).2.host.ids.Distinct) :
    ∃ id, (ctx.run b (writer.close g).run w).1 = .ok id ∧
      holds (ctx.run b (writer.close g).run w).2
        (m.addObject (.ofHeader id (writer.header g) writer.staging.content)) ∧
      ∀ bucket, m.object? bucket id = none := by
  rw [Writer.close_eq hstaged, Context.run_fsCall] at hd ⊢
  have hserved := hb.settle_live h hlive (c := .putObject (writer.header g)
    (.ofChunks (writer.chunks g))) (PayloadStream.complete_ofChunks _) hd
  obtain ⟨id, hid, hstored⟩ := Served.stored hb h hbucket hserved hd
  exact ⟨id, congrArg (Except.mapError _) hid, hstored⟩

/-- A writer whose length is more than there are bytes is not stored. -/
theorem Faithful.run_close_short (hb : Faithful b holds) (h : holds w m) (ctx : Context)
    (g : Gateway) (hshort : writer.staging.content.length < writer.length) :
    ∃ cause, (ctx.run b (writer.close g).run w).1 = .error cause ∧
      holds (ctx.run b (writer.close g).run w).2 m := by
  unfold Writer.close
  rw [Context.run_fsCall]
  have hrefused := hb.settle_incomplete h ctx (c := .putObject (writer.header g)
    (writer.staging.upload g.maxChunk)) (Staging.upload_incomplete hshort _)
  obtain ⟨cause, hcause⟩ := hrefused.failed
  exact ⟨_, congrArg (Except.mapError _) hcause, hrefused.holds⟩

/-- However a request goes, a writer that it has closed is stored. -/
theorem Faithful.run_close_ok (hb : Faithful b holds) (h : holds w m) {id : ObjectId}
    (hok : (ctx.run b (writer.close g).run w).1 = .ok id)
    (hd : (ctx.run b (writer.close g).run w).2.host.ids.Distinct) :
    (m.bucket? writer.bucket).isSome ∧
      holds (ctx.run b (writer.close g).run w).2
        (m.addObject (.ofHeader id (writer.header g) writer.staging.content)) ∧
      ∀ bucket, m.object? bucket id = none := by
  obtain hshort | hstaged := Nat.lt_or_eq_of_le writer.staging.length_content_le
  · obtain ⟨cause, hcause, -⟩ := hb.run_close_short h ctx g hshort
    rw [hcause] at hok
    cases hok
  · rw [Writer.close_eq hstaged, Context.run_fsCall] at hok hd ⊢
    obtain hserved | hrefused := hb.settle_complete h ctx (c := .putObject (writer.header g)
      (.ofChunks (writer.chunks g))) (PayloadStream.complete_ofChunks _) hd
    · cases hbucket : m.bucket? writer.bucket with
      | none =>
        have hanswer := hserved.answer
        rw [Memory.serve_putObject_refused (w := ⟨w.host, m⟩) (writer.header g) hbucket] at hanswer
        rw [← Option.some.inj hanswer] at hok
        cases hok
      | some found =>
        obtain ⟨_, hid, hstored⟩ := Served.stored hb h (by rw [hbucket]; rfl) hserved hd
        rw [hid] at hok
        cases hok
        exact ⟨rfl, hstored⟩
    · obtain ⟨cause, hcause⟩ := hrefused.failed
      rw [hcause] at hok
      cases hok

/-! ## Sessions -/

open Config (BackendKind)

namespace Session

/-- A writer that accepted these writes was stored as the object `id`, and nothing else
happened to the store. -/
structure Stored (k : BackendKind) (m : Memory.Store) (g : Gateway) (writer : Writer)
    (writes : List (Nat × Bytes)) (left : World k.Store) (id : ObjectId) (content : Bytes)
    (chunks : List Bytes) : Prop where
  overlay : Staging.IsOverlay writes content
  cut : Bytes.CutInto (max g.maxChunk 1) content chunks
  /-- Closing made one call, the upload of these chunks. -/
  uploaded : writer.close g = FsProgram.call writer.path (.putObject
    { bucket := writer.bucket
      owner := g.settings.owner
      attributes := .named Attributes.fileNameKey writer.name g.now }
    (.ofChunks chunks))
  fresh : ∀ bucket, m.object? bucket id = none
  /-- The new object is the last one of its bucket, and it has no parent. -/
  held : k.Holds left (m.addObject
    { info :=
        { id, bucket := writer.bucket, owner := g.settings.owner, size := content.length
          attributes := .named Attributes.fileNameKey writer.name g.now }
      parent := none
      payload := content })

/-- A writer that has as many bytes as it is long is stored. -/
theorem close_full {k : BackendKind} {settings : Settings} {s s' : Session k.Store}
    {ctx : Context} {now : Int} {number : Nat} {writer : Writer} {m : Memory.Store}
    {outcome : Outcome} (hwriter : s.writer? number = some writer) (hm : k.Holds s.world m)
    (hlive : ctx.Live) (hbucket : (m.bucket? writer.bucket).isSome)
    (hfull : writer.staging.content.length = writer.length)
    (hstep : s.step k.backend settings (.close ctx now number) = (outcome, s'))
    (hd : s'.world.host.ids.Distinct) :
    ∃ id, outcome = .closed (.ok id) ∧
      Stored k m (s.gateway k.backend settings now) writer writer.staging.writes s'.world id
        writer.staging.content (writer.chunks (s.gateway k.backend settings now)) := by
  rw [step_close hwriter] at hstep
  obtain ⟨rfl, rfl⟩ := Prod.mk.inj hstep
  obtain ⟨id, hclose, hheld, hfresh⟩ := k.faithful.run_close hm hlive hbucket hfull hd
  exact ⟨id, congrArg Outcome.closed hclose,
    { overlay := writer.staging.content_isOverlay
      cut := Bytes.cutInto_pieces _ _
      uploaded := Writer.close_eq hfull
      fresh := hfresh
      held := hheld }⟩

/-- Whatever steps a session has come through: writing and dropping leave the world alone,
a write in front of the beginning is refused and changes nothing, and the length of a
writer is the end of the furthest write that it accepted. Closing it into a bucket that is
there succeeds if and only if that write carries data, or another one that ends there does.
Then one object is stored, the overlay of the accepted writes; otherwise none. -/
theorem writer_stores_overlay {k : BackendKind} {settings : Settings} {start : World k.Store}
    {m₀ : Memory.Store} {log : List (Event × Outcome)} {s : Session k.Store}
    (hstart : k.Holds start m₀) (hrun : Run k.backend settings ⟨start, []⟩ log s)
    (hd : s.world.host.ids.Distinct) :
    (∀ number data offset,
      (s.step k.backend settings (.write number data offset)).2.world = s.world) ∧
    (∀ number, (s.step k.backend settings (.drop number)).2.world = s.world) ∧
    (∃ m, k.Holds s.world m) ∧
    ∀ number writer, s.writer? number = some writer →
      (∀ data offset, offset < 0 → s.step k.backend settings (.write number data offset) =
        (.wrote (.error (.invalid writer.path "negative write offset")), s)) ∧
      writer.length = Staging.furthest (accepted number log) ∧
      ∀ ctx now m, ctx.Live → k.Holds s.world m → (m.bucket? writer.bucket).isSome →
        ∀ outcome s', s.step k.backend settings (.close ctx now number) = (outcome, s') →
          s'.world.host.ids.Distinct →
          ((∃ id, outcome = .closed (.ok id)) ↔
            writer.length = Staging.furthest (Staging.carrying (accepted number log))) ∧
          (∀ id, outcome = .closed (.ok id) → ∃ content chunks,
            Stored k m (s.gateway k.backend settings now) writer (accepted number log) s'.world id
              content chunks) ∧
          ((∀ id, outcome ≠ .closed (.ok id)) →
            ∃ cause, outcome = .closed (.error cause) ∧ k.Holds s'.world m) := by
  obtain ⟨m, hm⟩ := hrun.held k.faithful ⟨m₀, hstart⟩ hd
  refine ⟨step_write_world s, fun _ => rfl, ⟨m, hm⟩, fun number writer hwriter => ?_⟩
  have hstaged := hrun.staged hwriter
  refine ⟨fun data offset => step_write_negative hwriter data, ?_, ?_⟩
  · rw [← hstaged]
    exact Staging.length_eq_furthest _
  · intro ctx now m hlive hm hbucket outcome s' hstep hd'
    rw [← hstaged, ← Staging.length_content]
    -- When the staged bytes end before the writer does, the upload breaks off.
    obtain hshort | hfull := Nat.lt_or_eq_of_le writer.staging.length_content_le
    · rw [step_close hwriter] at hstep
      cases hstep
      obtain ⟨cause, hclose, hheld⟩ := k.faithful.run_close_short hm ctx
        (s.gateway k.backend settings now) hshort
      rw [hclose]
      refine ⟨⟨?_, fun hlength => absurd hlength (Nat.ne_of_gt hshort)⟩, ?_,
        fun _ => ⟨cause, rfl, hheld⟩⟩
      · rintro ⟨id, ⟨⟩⟩
      · rintro id ⟨⟩
    · obtain ⟨id, rfl, hstored⟩ := close_full hwriter hm hlive hbucket hfull hstep hd'
      refine ⟨⟨fun _ => hfull.symm, fun _ => ⟨id, rfl⟩⟩, ?_, fun hnever => absurd rfl (hnever id)⟩
      rintro _ ⟨⟩
      exact ⟨_, _, hstored⟩

/-- An empty store in memory, on a host that counts its keys. -/
def emptyWorld : World Memory.Store where
  host := { files := ⟨[(["tmp"], .dir)]⟩, ids := ⟨BitVec.ofNat 128, 0⟩ }
  store := {}

/-- The keys that are drawn in such a world are distinct, unless there are too many. -/
theorem Run.distinct_of_few {settings : Settings} {log : List (Event × Outcome)}
    {s : Session Memory.Store} (h : Run Memory.backend settings ⟨emptyWorld, []⟩ log s)
    (hfew : s.world.host.ids.drawn ≤ 2 ^ 128) : s.world.host.ids.Distinct :=
  IdSupply.distinct_of_counting (h.extends_start Memory.faithful) rfl hfew

/-- A bucket is made, a writer is opened, data is written behind a gap, and a write in
front of the beginning is tried. -/
def gapEvents : List Event :=
  [.request {} 0 (.mkdir (.bucket "b")), .request {} 0 (.put (.object "b" "f")),
    .write 0 [1, 2] 3, .write 0 [9] (-1)]

def gapSession : Session Memory.Store :=
  (after Memory.backend {} ⟨emptyWorld, []⟩ gapEvents).2

def gapClosed : Outcome × Session Memory.Store :=
  gapSession.step Memory.backend {} (.close {} 0 0)

theorem writer_stores_overlay_gap :
    BackendKind.memory.Holds emptyWorld {} ∧ gapClosed.2.world.host.ids.Distinct ∧
      ∃ m writer id content chunks, BackendKind.memory.Holds gapSession.world m ∧
        gapClosed.1 = .closed (.ok id) ∧
        Stored .memory m (gapSession.gateway Memory.backend {} 0) writer [(3, [1, 2])]
          gapClosed.2.world id content chunks := by
  have hstart : BackendKind.memory.Holds emptyWorld {} :=
    BackendKind.Empty.holds (k := .memory) ⟨rfl, rfl, rfl⟩
  have hrun := run_after Memory.backend {} ⟨emptyWorld, []⟩ gapEvents
  have hids := (hrun.step (.close {} 0 0)).extends_start Memory.faithful
  have hd : gapClosed.2.world.host.ids.Distinct :=
    IdSupply.distinct_of_counting hids rfl (by decide +kernel)
  have hd' : gapSession.world.host.ids.Distinct :=
    hd.of_extends (step_extends Memory.faithful _ _)
  obtain ⟨-, -, ⟨m, hm⟩, hwriters⟩ := writer_stores_overlay hstart hrun hd'
  have hwriter : gapSession.writer? 0 =
      some { bucket := ⟨0⟩, name := "f", path := "/b/f", staging := ⟨[(3, [1, 2])]⟩ } := by
    decide +kernel
  have haccepted : accepted 0 (after Memory.backend {} ⟨emptyWorld, []⟩ gapEvents).1 =
      [(3, [1, 2])] := by
    decide +kernel
  have hbucket : (m.bucket? ⟨0⟩).isSome := by
    rw [← hm.1.bucket?]
    decide +kernel
  obtain ⟨-, -, hclosed⟩ := hwriters 0 _ hwriter
  obtain ⟨hsucceeds, hstored, -⟩ := hclosed {} 0 m Context.live_default hm hbucket gapClosed.1
    gapClosed.2 rfl hd
  rw [haccepted] at hsucceeds hstored
  obtain ⟨id, hid⟩ := hsucceeds.mpr rfl
  obtain ⟨content, chunks, hcontent⟩ := hstored id hid
  exact ⟨hstart, hd, m, _, id, content, chunks, hm, hid, hcontent⟩

end Session
end ObjectGateway
