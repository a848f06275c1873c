import ObjectGateway.Proofs.Backend.Kinds
import ObjectGateway.Proofs.Memory.Told
/-!
# How requests are settled

A request is given up before its call is answered, or the call is seen to its end. Which of
the two depends on the request, and on whether the backend answers at all, but not on what is
stored. A call that is seen to its end is carried out, unless it is for a head that fails or
its stream breaks off.
-/
namespace ObjectGateway

/-- The database is there, so every call waits for it. -/
theorem Durable.Holds.waits {w : World Store} {m : Memory.Store} (h : Holds w m) (c : Command) :
    ∃ left, (call c w).firstWait = some left := by
  have hreachable : w.store.db.reachable = true := by
    obtain ⟨buckets, objects, hdb, -⟩ := h.recorded
    rw [hdb]
    rfl
  cases c with
  | putBucket header => exact ⟨_, rfl⟩
  | _ => exact ⟨w, if_pos hreachable⟩

/-- What a store in memory answers it answers at once. -/
theorem Memory.firstWait_of_answer {w : World Store} {c : Command}
    {answer : Except BackendError c.Answer} (h : (serve w c).answer = some answer) :
    (serve w c).firstWait = none := by
  cases c with
  | putObject header payload =>
    simp only [serve] at h ⊢
    cases hdrain : payload.drain with
    | waiting chunks => simp [hdrain, waiting] at h
    | _ => rfl
  | deleteObject bucket id =>
    simp only [serve]
    cases w.store.object? bucket id with
    | none => rfl
    | some o => rfl
  | deleteBucket id =>
    simp only [serve]
    cases w.store.bucket? id with
    | none => rfl
    | some b => rfl
  | _ => rfl

namespace Config.BackendKind

variable {k : BackendKind} {w w' : World k.Store} {m : Memory.Store} {ctx : Context} {c : Command}
  {cause : BackendError}

-- ---------------------------------------------------------------------------
-- What a backend has been told
-- ---------------------------------------------------------------------------

/-- A store in memory that has been told to answer no call. -/
def Stalled : (k : BackendKind) → World k.Store → Prop
  | sqlite => fun _ => False
  | memory => fun w => w.store.stalled = true

/-- The head of this object can be had. A store in memory may have been told to fail for it. -/
def Answers : (k : BackendKind) → World k.Store → ObjectId → Prop
  | sqlite => fun _ _ => True
  | memory => fun w id => id ∉ w.store.failingHeads

theorem stalled_atomic : (k : BackendKind) → Atomic k.backend fun w _ => k.Stalled w
  | sqlite => ⟨fun _ _ h _ => h.elim, Durable.faithful.atomic.extends_settle⟩
  | memory => Memory.stalled_atomic

theorem stalled_settle (k : BackendKind) (ctx : Context) (w : World k.Store) (c : Command) :
    k.Stalled (ctx.settle w (k.backend.call c w)).2 ↔ k.Stalled w := by
  cases k with
  | sqlite => exact Iff.rfl
  | memory =>
    have hsame := (Memory.settle_told ctx w c).stalled
    exact (congrArg (· = true) hsame).to_iff

theorem answers_settle (k : BackendKind) (ctx : Context) (w : World k.Store) (c : Command)
    (id : ObjectId) : k.Answers (ctx.settle w (k.backend.call c w)).2 id ↔ k.Answers w id := by
  cases k with
  | sqlite => exact Iff.rfl
  | memory =>
    have hsame := (Memory.settle_told ctx w c).failingHeads
    exact (congrArg (id ∉ ·) hsame).to_iff

/-- On a backend that answers, the store is read off in order. -/
theorem awake_atomic (k : BackendKind) :
    Atomic k.backend fun w m => (k.Stores w m ∧ m.Sound w.host.ids) ∧ ¬k.Stalled w :=
  k.atomic.sound.keeping fun ctx w c h => (k.stalled_settle ctx w c).not.mpr h

theorem Stores.healthy (h : k.Stores w m) : m.Healthy := by
  cases k with
  | sqlite => exact Durable.Holds.healthy h
  | memory => exact And.left h

/-- Which buckets are stored, and in which order, can be read off a world. -/
theorem Stores.bucketIds_eq {m' : Memory.Store} (h : k.Stores w m) (h' : k.Stores w m') :
    m.buckets.map (·.info.id) = m'.buckets.map (·.info.id) := by
  cases k with
  | memory => exact congrArg _ (h.2.symm.trans h'.2)
  | sqlite =>
    obtain ⟨buckets, objects, hdb, hrecorded⟩ := Durable.Holds.recorded h
    obtain ⟨buckets', objects', hdb', hrecorded'⟩ := Durable.Holds.recorded h'
    rw [hdb] at hdb'
    cases hdb'
    exact hrecorded.map_bucket_id.symm.trans hrecorded'.map_bucket_id

-- ---------------------------------------------------------------------------
-- Requests that are given up
-- ---------------------------------------------------------------------------

/-- Calls wait before they are answered. Those to a store in memory only do when it is
stalled. -/
def Waits : (k : BackendKind) → World k.Store → Prop
  | sqlite => fun _ => True
  | memory => fun w => w.store.stalled = true

/-- The request is given up before its call is answered, for this cause. -/
inductive GivesUp (k : BackendKind) (w : World k.Store) (ctx : Context) : BackendError → Prop
  | already (h : ctx.interruption = .already) : GivesUp k w ctx .cancelled
  | whileWaiting (h : ctx.interruption = .whileWaiting) (hwaits : k.Waits w) :
      GivesUp k w ctx .cancelled
  | outOfTime (h : ctx.interruption = .never) (hzero : ctx.limit.isZero = true)
      (hwaits : k.Waits w) : GivesUp k w ctx (.timedOut ctx.limit)
  | stalled (h : ctx.interruption = .never) (hstalled : k.Stalled w) :
      GivesUp k w ctx (.timedOut ctx.limit)

/-- Of two backends of a kind that both answer, or both do not, the same requests are given
up. -/
theorem GivesUp.same (h : k.GivesUp w ctx cause) (hstalled : k.Stalled w ↔ k.Stalled w') :
    k.GivesUp w' ctx cause := by
  have hwaits : k.Waits w → k.Waits w' := by
    cases k with
    | sqlite => exact id
    | memory => exact hstalled.mp
  cases h with
  | already h => exact .already h
  | whileWaiting h hw => exact .whileWaiting h (hwaits hw)
  | outOfTime h hzero hw => exact .outOfTime h hzero (hwaits hw)
  | stalled h hs => exact .stalled h (hstalled.mp hs)

/-- A stalled store makes every request wait for ever. -/
theorem call_stalled {w : World Memory.Store} (h : w.store.stalled = true) (c : Command) :
    memory.backend.call c w = Memory.waiting (Memory.counted w) := by
  simp [backend, Memory.backend, Memory.call, Memory.counted, h]

theorem call_awake {w : World Memory.Store} (h : ¬w.store.stalled = true) (c : Command) :
    memory.backend.call c w = Memory.serve (Memory.counted w) c := by
  simp [backend, Memory.backend, Memory.call, Memory.counted, h]

/-- A request that is given up fails for its cause, and the store is as it was. -/
theorem settle_givesUp (h : k.GivesUp w ctx cause) (hstores : k.Stores w m) (c : Command) :
    (ctx.settle w (k.backend.call c w)).1 = .error cause ∧
      k.Stores (ctx.settle w (k.backend.call c w)).2 m := by
  cases k with
  | sqlite =>
    obtain ⟨left, hwait⟩ := Durable.Holds.waits hstores c
    have hleft : sqlite.Stores left m := Durable.Holds.call_firstWait hstores hwait
    change (sqlite.backend.call c w).firstWait = some left at hwait
    cases h with
    | already h => simpa only [Context.settle, h] using ⟨trivial, hstores⟩
    | whileWaiting h => simpa only [Context.settle, h, hwait] using ⟨trivial, hleft⟩
    | outOfTime h hzero =>
      simpa only [Context.settle, h, hzero, hwait, if_true] using ⟨trivial, hleft⟩
    | stalled h hstalled => exact hstalled.elim
  | memory =>
    have hcounted : memory.Stores (Memory.counted w) m := hstores
    cases h with
    | already h => simpa only [Context.settle, h] using ⟨trivial, hstores⟩
    | whileWaiting h hwaits =>
      rw [call_stalled hwaits]
      simpa only [Context.settle, h, Memory.waiting] using ⟨trivial, hcounted⟩
    | outOfTime h hzero hwaits =>
      rw [call_stalled hwaits]
      simpa only [Context.settle, h, hzero, Memory.waiting, if_true] using ⟨trivial, hcounted⟩
    | stalled h hstalled =>
      rw [call_stalled hstalled]
      simp only [Context.settle, h, Memory.waiting, Context.await]
      split
      · exact ⟨rfl, hcounted⟩
      · exact ⟨rfl, hcounted⟩

-- ---------------------------------------------------------------------------
-- Calls that are seen to their end
-- ---------------------------------------------------------------------------

/-- On disk only live requests are not given up. -/
theorem live_of_not_givesUp {w : World Durable.Store} (h : ∀ cause, ¬sqlite.GivesUp w ctx cause) :
    ctx.Live := by
  cases hinterruption : ctx.interruption with
  | already => exact absurd (.already hinterruption) (h _)
  | whileWaiting => exact absurd (.whileWaiting hinterruption trivial) (h _)
  | never =>
    refine ⟨hinterruption, Bool.eq_false_iff.mpr fun hzero => ?_⟩
    exact h _ (.outOfTime hinterruption hzero trivial)

/-- In memory they are given up when the store is stalled, or cancelled before. -/
theorem awake_of_not_givesUp {w : World Memory.Store}
    (h : ∀ cause, ¬memory.GivesUp w ctx cause) :
    ¬w.store.stalled = true ∧ ctx.interruption ≠ .already := by
  refine ⟨fun hstalled => ?_, fun halready => h _ (.already halready)⟩
  cases hinterruption : ctx.interruption with
  | already => exact h _ (.already hinterruption)
  | whileWaiting => exact h _ (.whileWaiting hinterruption hstalled)
  | never => exact h _ (.stalled hinterruption hstalled)

/-- A request that is not given up gets the answer of its call. -/
theorem settle_answered (h : ∀ cause, ¬k.GivesUp w ctx cause)
    {answer : Except BackendError c.Answer} (ha : (k.backend.call c w).answer = some answer) :
    ctx.settle w (k.backend.call c w) = (answer, (k.backend.call c w).after) := by
  cases k with
  | sqlite => exact Context.settle_live (live_of_not_givesUp h) ha
  | memory =>
    obtain ⟨hawake, hunmade⟩ := awake_of_not_givesUp h
    have hprompt : (memory.backend.call c w).firstWait = none := by
      rw [call_awake hawake] at ha ⊢
      exact Memory.firstWait_of_answer ha
    cases hinterruption : ctx.interruption with
    | already => exact absurd hinterruption hunmade
    | whileWaiting => simp [Context.settle, hinterruption, hprompt, Context.await, ha]
    | never => simp [Context.settle, hinterruption, hprompt, Context.await, ha]

/-- A command that reads no stream, or one that ends, is carried out, unless it is for a head
that fails. -/
theorem settle_carried (h : ∀ cause, ¬k.GivesUp w ctx cause) (hstores : k.Stores w m)
    (hcomplete : c.Complete) (hanswers : ∀ bucket id, c = .headObject bucket id → k.Answers w id)
    (hd : (ctx.settle w (k.backend.call c w)).2.host.ids.Distinct) :
    Faithful.Served k.Stores w m c (ctx.settle w (k.backend.call c w)) := by
  cases k with
  | sqlite => exact Durable.faithful.settle_live hstores (live_of_not_givesUp h) hcomplete hd
  | memory =>
    have hcall := call_awake (awake_of_not_givesUp h).1 c
    obtain ⟨answer, ha⟩ := Memory.serve_answers (Memory.counted w) hcomplete
    rw [settle_answered h (hcall ▸ ha), hcall]
    have hserved := Memory.Stocks.served (Memory.Stocks.counted hstores) hanswers ha
    exact ⟨hserved.answer, hserved.holds, hserved.ids⟩

/-- A head that fails. -/
theorem settle_failing (h : ∀ cause, ¬k.GivesUp w ctx cause) (hstores : k.Stores w m)
    (bucket : BucketId) {id : ObjectId} (hfails : ¬k.Answers w id) :
    (ctx.settle w (k.backend.call (.headObject bucket id) w)).1 =
        .error (.io (.custom "injected head failure")) ∧
      k.Stores (ctx.settle w (k.backend.call (.headObject bucket id) w)).2 m := by
  cases k with
  | sqlite => exact absurd trivial hfails
  | memory =>
    have hhead : id ∈ (Memory.counted w).store.failingHeads := not_not.mp hfails
    have hcall : memory.backend.call (.headObject bucket id) w = Memory.looked (Memory.counted w)
        (.error (.io (.custom "injected head failure"))) := by
      rw [call_awake (awake_of_not_givesUp h).1]
      simp [Memory.serve, Memory.Store.head, hhead]
    rw [settle_answered h (congrArg Call.answer hcall), hcall]
    exact ⟨rfl, hstores⟩

/-- What an upload fails with whose stream breaks off. On disk the bucket is looked for
first. -/
def brokenUpload : (k : BackendKind) → Memory.Store → BucketId → IoError → BackendError
  | sqlite, m, bucket, cause => if (m.bucket? bucket).isSome then .io cause else .notFound
  | memory, _, _, cause => .io cause

/-- Such an upload stores nothing. -/
theorem settle_broken (h : ∀ cause, ¬k.GivesUp w ctx cause) (hstores : k.Stores w m)
    {header : ObjectHeader} {payload : PayloadStream} {cause : IoError}
    (hdrain : payload.drain = .failed cause) :
    (ctx.settle w (k.backend.call (.putObject header payload) w)).1 =
        .error (k.brokenUpload m header.bucket cause) ∧
      k.Stores (ctx.settle w (k.backend.call (.putObject header payload) w)).2 m := by
  cases k with
  | sqlite =>
    have hincomplete : ¬Command.Complete (.putObject header payload) := by
      rintro ⟨chunks, hchunks⟩
      rw [hdrain] at hchunks
      cases hchunks
    have hanswer : (sqlite.backend.call (.putObject header payload) w).answer =
        some (.error (sqlite.brokenUpload m header.bucket cause)) := by
      change (Durable.upload header payload w).1 = _
      cases hb : m.bucket? header.bucket with
      | none => simp [Durable.Holds.upload_refused hstores header payload hb, brokenUpload, hb]
      | some b =>
        obtain ⟨files, -, hupload, -⟩ :=
          Durable.Holds.upload_begun hstores header payload (by simp [hb])
        simp [hupload, Durable.finish, hdrain, brokenUpload, hb]
    rw [settle_answered h hanswer]
    exact ⟨rfl, (Durable.faithful.incomplete hstores hincomplete).2⟩
  | memory =>
    have hcall : memory.backend.call (.putObject header payload) w =
        Memory.looked (Memory.counted w) (.error (.io cause)) := by
      rw [call_awake (awake_of_not_givesUp h).1]
      simp [Memory.serve, hdrain]
    rw [settle_answered h (congrArg Call.answer hcall), hcall]
    exact ⟨rfl, hstores⟩

end Config.BackendKind
end ObjectGateway
