import ObjectGateway.Proofs.Backend.Settling
import ObjectGateway.Proofs.Gateway.Writers
/-!
# Writers that can be closed

A write without data leaves no bytes, but a writer is as long as it reaches. If it reaches
beyond all data, there are fewer bytes than the writer is long, and it cannot be closed. In
every other case it can, and what no write covers is stored as zeros.
-/
namespace ObjectGateway

-- ---------------------------------------------------------------------------
-- Writes without data
-- ---------------------------------------------------------------------------

namespace Staging

variable {writes : List (Nat × Bytes)} {n : Nat}

/-- No write without data reaches beyond those that carry some. -/
def Grounded (writes : List (Nat × Bytes)) : Prop :=
  ∀ write ∈ writes, write.2 = [] → write.1 ≤ furthest (carrying writes)

theorem furthest_le_iff : furthest writes ≤ n ↔ ∀ write ∈ writes, stop write ≤ n := by
  induction writes with
  | nil => simp [furthest]
  | cons first rest ih => simp only [furthest, Nat.max_le, ih, List.forall_mem_cons]

/-- A write that carries data does not reach beyond those that do. -/
theorem stop_le_furthest_carrying {write : Nat × Bytes} (h : write ∈ writes)
    (hdata : write.2 ≠ []) : stop write ≤ furthest (carrying writes) := by
  refine furthest_le_iff.mp (Nat.le_refl _) write ?_
  exact List.mem_filter.mpr ⟨h, by simpa using hdata⟩

theorem grounded_iff : Grounded writes ↔ furthest (carrying writes) = furthest writes := by
  constructor
  · intro h
    refine Nat.le_antisymm (furthest_carrying_le writes) (furthest_le_iff.mpr ?_)
    intro write hwrite
    by_cases hdata : write.2 = []
    · have hreach := h write hwrite hdata
      rwa [stop, hdata, List.length_nil, Nat.add_zero]
    · exact stop_le_furthest_carrying hwrite hdata
  · intro h write hwrite hdata
    have hreach := furthest_le_iff.mp (Nat.le_refl (furthest writes)) write hwrite
    rwa [stop, hdata, List.length_nil, Nat.add_zero, ← h] at hreach

/-- What no write covers reads as zero. -/
theorem byteAt_uncovered {i : Nat} (h : ∀ write ∈ writes, ¬covers i write) :
    byteAt writes i = 0 := by
  have hnone : writes.reverse.find? (covers i) = none := by
    rw [List.find?_eq_none]
    exact fun write hwrite => h write (List.mem_reverse.mp hwrite)
  rw [byteAt, hnone]

end Staging

-- ---------------------------------------------------------------------------
-- Uploads that break off
-- ---------------------------------------------------------------------------

namespace Config.BackendKind

variable {k : BackendKind} {w : World k.Store} {m : Memory.Store} {ctx : Context}

theorem Holds.stores (h : k.Holds w m) : k.Stores w m := by
  cases k with
  | sqlite => exact h
  | memory => exact ⟨h.1.right, h.1.buckets⟩

/-- A healthy backend sees the calls of a live request to their end. -/
theorem Holds.not_givesUp (h : k.Holds w m) (hlive : ctx.Live) (cause : BackendError) :
    ¬k.GivesUp w ctx cause := by
  intro hgives
  cases hgives with
  | already hbefore => rw [hlive.1] at hbefore; cases hbefore
  | whileWaiting hmeanwhile => rw [hlive.1] at hmeanwhile; cases hmeanwhile
  | outOfTime _ hzero => rw [hlive.2] at hzero; cases hzero
  | stalled _ hstalled =>
    cases k with
    | sqlite => exact hstalled
    | memory =>
      have hawake := h.1.left.1
      rw [show w.store.stalled = true from hstalled] at hawake
      cases hawake

end Config.BackendKind

open Config (BackendKind)

namespace Session

variable {k : BackendKind} {settings : Settings} {s s' : Session k.Store} {ctx : Context}
  {now : Int} {number : Nat} {writer : Writer} {m : Memory.Store} {outcome : Outcome}

/-- A writer that is longer than there are bytes is not stored: its upload breaks off. -/
theorem close_short (hwriter : s.writer? number = some writer) (hm : k.Holds s.world m)
    (hlive : ctx.Live) (hbucket : (m.bucket? writer.bucket).isSome)
    (hshort : writer.staging.content.length < writer.length)
    (hstep : s.step k.backend settings (.close ctx now number) = (outcome, s')) :
    outcome = .closed (.error (.backend "put_object" writer.path (.io .endOfFile))) ∧
      k.Holds s'.world m := by
  rw [step_close hwriter] at hstep
  obtain ⟨rfl, rfl⟩ := Prod.mk.inj hstep
  obtain ⟨-, -, hheld⟩ :=
    k.faithful.run_close_short hm ctx (s.gateway k.backend settings now) hshort
  refine ⟨congrArg Outcome.closed ?_, hheld⟩
  have hdrain := Staging.drain_upload_short hshort (s.gateway k.backend settings now).maxChunk
  have hanswer : (ctx.settle s.world (k.backend.call (.putObject
      (writer.header (s.gateway k.backend settings now))
      (writer.staging.upload (s.gateway k.backend settings now).maxChunk)) s.world)).1 =
      .error (k.brokenUpload m writer.bucket .endOfFile) :=
    (BackendKind.settle_broken (fun cause => hm.not_givesUp hlive cause) hm.stores hdrain).1
  have hbroken : k.brokenUpload m writer.bucket .endOfFile = .io .endOfFile := by
    cases k with
    | sqlite => exact if_pos hbucket
    | memory => rfl
  have hclose := Context.run_fsCall ctx k.backend writer.path (.putObject
    (writer.header (s.gateway k.backend settings now))
    (writer.staging.upload (s.gateway k.backend settings now).maxChunk)) s.world
  refine (congrArg Prod.fst hclose).trans ?_
  rw [hanswer]
  exact congrArg (fun cause => Except.error (FsError.ofBackend "put_object" writer.path cause))
    hbroken

/-- A client that has written what it wanted closes its writer, on a backend that is healthy
and still has the bucket. Unless a write without data reaches beyond all those that carry some,
the writer is stored with as many bytes as it is long, and with zeros wherever no write was
accepted. Otherwise the upload breaks off, and nothing is stored. -/
theorem grounded_writer_closes {start : World k.Store} {log : List (Event × Outcome)}
    (hrun : Run k.backend settings ⟨start, []⟩ log s) (hwriter : s.writer? number = some writer)
    (hlive : ctx.Live) (hm : k.Holds s.world m) (hbucket : (m.bucket? writer.bucket).isSome)
    (hclose : s.step k.backend settings (.close ctx now number) = (outcome, s'))
    (hd : s'.world.host.ids.Distinct) :
    (Staging.Grounded (accepted number log) → ∃ id content chunks,
      outcome = .closed (.ok id) ∧
      Stored k m (s.gateway k.backend settings now) writer (accepted number log) s'.world id
        content chunks ∧
      content.length = writer.length ∧
      ∀ i (h : i < content.length),
        (∀ write ∈ accepted number log, ¬Staging.covers i write) → content[i] = 0) ∧
    (¬Staging.Grounded (accepted number log) →
      outcome = .closed (.error (.backend "put_object" writer.path (.io .endOfFile))) ∧
      k.Holds s'.world m) := by
  have hstaged := hrun.staged hwriter
  have hgrounded : Staging.Grounded (accepted number log) ↔
      writer.staging.content.length = writer.length := by
    rw [Staging.grounded_iff, ← hstaged, ← Staging.length_content, ← Staging.length_eq_furthest]
    rfl
  rw [hgrounded]
  constructor
  · intro hfull
    obtain ⟨id, houtcome, hstored⟩ := close_full hwriter hm hlive hbucket hfull hclose hd
    rw [hstaged] at hstored
    refine ⟨id, _, _, houtcome, hstored, hfull, fun i h huncovered => ?_⟩
    rw [hstored.overlay.byte i h, Staging.byteAt_uncovered huncovered]
  · intro hnot
    have hshort := Nat.lt_of_le_of_ne writer.staging.length_content_le hnot
    exact close_short hwriter hm hlive hbucket hshort hclose

/-- A bucket is made, a writer is opened, and it is written to in these places. -/
def writeEvents (writes : List (Nat × Bytes)) : List Event :=
  [.request {} 0 (.mkdir (.bucket "b")), .request {} 0 (.put (.object "b" "f"))] ++
    writes.map fun (offset, data) => .write 0 data offset

def writeSession (writes : List (Nat × Bytes)) : Session Memory.Store :=
  (after Memory.backend {} ⟨emptyWorld, []⟩ (writeEvents writes)).2

def writeClosed (writes : List (Nat × Bytes)) : Outcome × Session Memory.Store :=
  (writeSession writes).step Memory.backend {} (.close {} 0 0)

/-- The store that is held before the writer is closed. -/
theorem holds_writeSession (writes : List (Nat × Bytes))
    (hfew : (writeSession writes).world.host.ids.drawn ≤ 2 ^ 128) :
    ∃ m, BackendKind.memory.Holds (writeSession writes).world m ∧
      m.buckets = (writeSession writes).world.store.buckets := by
  have hrun := run_after Memory.backend {} ⟨emptyWorld, []⟩ (writeEvents writes)
  have hempty : BackendKind.memory.Empty emptyWorld := ⟨rfl, rfl, rfl⟩
  obtain ⟨m, hm⟩ := hrun.held Memory.faithful ⟨{}, hempty.holds⟩ (hrun.distinct_of_few hfew)
  exact ⟨m, hm, hm.1.buckets.symm⟩

/-- Two bytes are written behind a gap, and nothing is written in front of them. -/
theorem grounded_writer_closes_gap :
    let writes : List (Nat × Bytes) := [(3, [1, 2]), (2, [])]
    let writer : Writer :=
      { bucket := ⟨0⟩, name := "f", path := "/b/f", staging := ⟨writes⟩ }
    let closed := writeClosed writes
    (writeSession writes).writer? 0 = some writer ∧ closed.2.world.host.ids.Distinct ∧
      Staging.Grounded writes ∧
      ∃ m id content chunks, BackendKind.memory.Holds (writeSession writes).world m ∧
        (m.bucket? ⟨0⟩).isSome ∧ closed.1 = .closed (.ok id) ∧
        Stored .memory m ((writeSession writes).gateway Memory.backend {} 0) writer writes
          closed.2.world id content chunks ∧
        content.length = 5 ∧ ∀ h : 1 < content.length, content[1] = 0 := by
  intro writes writer closed
  have hrun := run_after Memory.backend {} ⟨emptyWorld, []⟩ (writeEvents writes)
  have hids := (hrun.step (.close {} 0 0)).extends_start Memory.faithful
  have hd : closed.2.world.host.ids.Distinct :=
    IdSupply.distinct_of_counting hids rfl (by decide +kernel)
  have hwriter : (writeSession writes).writer? 0 = some writer := by decide +kernel
  have haccepted : accepted 0
      (after Memory.backend {} ⟨emptyWorld, []⟩ (writeEvents writes)).1 = writes := by
    decide +kernel
  have hgrounded : Staging.Grounded writes := by
    rw [Staging.grounded_iff]
    decide
  have huncovered : ∀ write ∈ writes, ¬Staging.covers 1 write := by decide
  obtain ⟨m, hm, hbuckets⟩ := holds_writeSession writes (by decide +kernel)
  have hbucket : (m.bucket? ⟨0⟩).isSome := by
    rw [Memory.Store.bucket?, hbuckets]
    decide +kernel
  have hcloses := (grounded_writer_closes (k := .memory) hrun hwriter Context.live_default hm
    hbucket (Prod.ext rfl rfl) hd).1
  rw [haccepted] at hcloses
  obtain ⟨id, content, chunks, houtcome, hstored, hlength, hzero⟩ := hcloses hgrounded
  exact ⟨hwriter, hd, hgrounded, m, id, content, chunks, hm, hbucket, houtcome, hstored, hlength,
    fun h => hzero 1 h huncovered⟩

/-- A write without data is accepted behind the end, and then the writer cannot be closed. -/
theorem empty_write_not_closed :
    let writes : List (Nat × Bytes) := [(5, [])]
    accepted 0 (after Memory.backend {} ⟨emptyWorld, []⟩ (writeEvents writes)).1 = writes ∧
      (∃ m, BackendKind.memory.Holds (writeSession writes).world m ∧ (m.bucket? ⟨0⟩).isSome) ∧
      (∃ writer, (writeSession writes).writer? 0 = some writer ∧ writer.bucket = ⟨0⟩ ∧
        writer.length = 5) ∧
      (writeClosed writes).1 =
        .closed (.error (.backend "put_object" "/b/f" (.io .endOfFile))) := by
  intro writes
  have hwriter : (writeSession writes).writer? 0 =
      some { bucket := ⟨0⟩, name := "f", path := "/b/f", staging := ⟨writes⟩ } := by
    decide +kernel
  obtain ⟨m, hm, hbuckets⟩ := holds_writeSession writes (by decide +kernel)
  have hbucket : (m.bucket? ⟨0⟩).isSome := by
    rw [Memory.Store.bucket?, hbuckets]
    decide +kernel
  refine ⟨by decide +kernel, ⟨m, hm, hbucket⟩, ⟨_, hwriter, rfl, rfl⟩, ?_⟩
  rw [writeClosed, step_close hwriter]
  exact congrArg Outcome.closed (by decide +kernel)

end Session
end ObjectGateway
