import ObjectGateway.Gateway.Dispatch
import ObjectGateway.Memory.Store
import ObjectGateway.Proofs.Backend.Calls
import ObjectGateway.Proofs.Gateway.Commands
/-!
# Requests that are cancelled

Every operation is prompt: it either rejects or answers a request by itself, or it turns to
the backend before it does anything else. A request that has been cancelled is therefore told
so exactly when it would have made a call, and has no effect at all.
-/
namespace ObjectGateway

open FsProgram

namespace Gateway

variable (g : Gateway)

theorem fetchBucket_callsFirst (id : BucketId) (path : String) :
    (g.fetchBucket id path).CallsFirst :=
  (CallsFirst.call path _).bind _

theorem listBuckets_callsFirst : g.listBuckets.CallsFirst :=
  (CallsFirst.call "/" _).bind _

/-- A bucket is never resolved without a call. -/
theorem resolveBucket_callsFirst (segment : String) : (g.resolveBucket segment).CallsFirst := by
  simp only [resolveBucket]
  split
  · exact g.fetchBucket_callsFirst _ _
  · exact g.listBuckets_callsFirst.bind _

theorem stat_prompt (path : FsPath) : (g.stat path).Prompt := by
  cases path with
  | root => exact .pure _
  | bucket b => exact .inl ((g.resolveBucket_callsFirst b).map _)
  | object b o => exact .inl ((g.resolveBucket_callsFirst b).bind _)

theorem list_prompt (path : FsPath) : (g.list path).Prompt := by
  cases path with
  | root => exact .inl (g.listBuckets_callsFirst.map _)
  | bucket b => exact .inl ((g.resolveBucket_callsFirst b).bind _)
  | object b o => exact .throw nofun

theorem openReader_prompt (path : FsPath) : (g.openReader path).Prompt := by
  cases path with
  | object b o => exact .inl (((g.resolveBucket_callsFirst b).bind _).bind _)
  | _ => exact .throw nofun

/-- Nothing is staged before the bucket has been resolved. -/
theorem openWriter_prompt (path : FsPath) : (g.openWriter path).Prompt := by
  cases path with
  | object b name => exact .inl ((g.resolveBucket_callsFirst b).bind _)
  | _ => exact .throw nofun

theorem makeBucket_prompt (path : FsPath) : (g.makeBucket path).Prompt := by
  cases path with
  | root => exact .throw nofun
  | object b o => exact .throw nofun
  | bucket name =>
    simp only [makeBucket]
    split
    · exact .inl (g.listBuckets_callsFirst.bind _)
    · exact .inl ((CallsFirst.call _ _).bind _)

theorem remove_prompt (path : FsPath) : (g.remove path).Prompt := by
  cases path with
  | root => exact .throw nofun
  | bucket b => exact .inl ((g.resolveBucket_callsFirst b).bind _)
  | object b o => exact .inl ((g.resolveBucket_callsFirst b).bind _)

theorem perform_prompt (request : Request) : (g.perform request).Prompt := by
  cases request with
  | list path => exact (g.list_prompt path).map _
  | stat path => exact (g.stat_prompt path).map _
  | get path => exact (g.openReader_prompt path).map _
  | put path | openFile path => exact (g.openWriter_prompt path).map _
  | mkdir path => exact (g.makeBucket_prompt path).map _
  | remove path | rmdir path => exact (g.remove_prompt path).map _
  | setstat path => exact .pure _
  | readlink path | rename source destination | link target path | symlink target path =>
    exact .throw nofun

theorem dispatch_prompt (request : Request) : (g.dispatch request).Prompt := by
  rw [dispatch]
  split
  · exact .throw fun _ h => by cases h
  · exact g.perform_prompt request

end Gateway

theorem Reader.fetch_prompt (r : Reader) (wanted : Nat) (offset : Int) :
    (r.fetch wanted offset).Prompt := by
  cases offset with
  | negSucc n => exact .throw nofun
  | ofNat n =>
    simp only [Reader.fetch]
    split
    · exact .pure _
    · split
      · exact .pure _
      · exact .inl ((CallsFirst.call _ _).bind _)

theorem Reader.readAt_prompt (r : Reader) (buffer : Bytes) (offset : Int) :
    (r.readAt buffer offset).Prompt := by
  rw [r.readAt_eq]
  exact (r.fetch_prompt buffer.length offset).map _

theorem Writer.close_prompt (g : Gateway) (writer : Writer) : (writer.close g).Prompt :=
  .inl (.call _ _)

/-- What a request, a read and a close come to when they have been cancelled before: no call
reaches the backend and nothing is changed, and the answer is that they are cancelled just if
they would have made a call; otherwise it is what it would have been. -/
theorem Gateway.cancelled_does_nothing {σ : Type} (b : Backend (World σ)) (g : Gateway)
    {ctx live : Context} (hctx : ctx.interruption = .already)
    (hlive : live.interruption ≠ .already) (w : World σ) :
    (∀ request : Request, (g.dispatch request).Forgone ctx live b w) ∧
      (∀ (r : Reader) (buffer : Bytes) (offset : Int),
        (r.readAt buffer offset).Forgone ctx live b w) ∧
      ∀ writer : Writer, (writer.close g).Forgone ctx live b w :=
  ⟨fun request => (g.dispatch_prompt request).forgone hctx hlive b w,
    fun r buffer offset => (r.readAt_prompt buffer offset).forgone hctx hlive b w,
    fun writer => (writer.close_prompt g).forgone hctx hlive b w⟩

/-- Beside the bucket `b`, a live request makes another one, and a live close stores an object.
Cancelled ones do neither. To describe the root takes no call, so it is not noticed that this
is cancelled. -/
theorem Gateway.cancelled_does_nothing_changes :
    let cancelled : Context := ⟨.already, .ofSeconds 15⟩
    let live : Context := {}
    let g : Gateway := ⟨{}, 1, 0⟩
    let w : World Memory.Store := ⟨{ ids := ⟨BitVec.ofNat 128, 1⟩ },
      { buckets := [{ info := ⟨⟨0⟩, Id.nil, defaultPolicy, .restricted,
          .named Attributes.nameKey "b" 0⟩ }] }⟩
    let make := g.dispatch (.mkdir (.bucket "c"))
    let close := Writer.close g { bucket := ⟨0⟩, name := "f", path := "/b/f" }
    let stat := g.dispatch (.stat .root)
    cancelled.interruption = .already ∧ live.interruption ≠ .already ∧
      make.Forgone cancelled live Memory.backend w ∧
      1 ≤ live.callsMade Memory.backend make.run w ∧
      (live.run Memory.backend make.run w).2.store.buckets.length = 2 ∧
      close.Forgone cancelled live Memory.backend w ∧
      1 ≤ live.callsMade Memory.backend close.run w ∧
      (live.run Memory.backend close.run w).2.store.buckets.map (·.objects.length) = [1] ∧
      stat.Forgone cancelled live Memory.backend w ∧
      live.callsMade Memory.backend stat.run w = 0 := by
  intro cancelled live g w make close stat
  have hcancelled : cancelled.interruption = .already := rfl
  have hlive : live.interruption ≠ .already := by decide
  obtain ⟨hrequest, -, hclose⟩ :=
    Gateway.cancelled_does_nothing Memory.backend g hcancelled hlive w
  exact ⟨hcancelled, hlive, hrequest _, by decide +kernel, by decide +kernel,
    hclose _, by decide +kernel, by decide +kernel, hrequest _, by decide +kernel⟩

end ObjectGateway
