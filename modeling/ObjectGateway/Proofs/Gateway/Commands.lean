import ObjectGateway.Gateway.Dispatch
import ObjectGateway.Proofs.Backend.Program
/-!
# What a gateway asks of its backend

Whatever the request, a gateway gives few kinds of commands: it looks, it deletes, and it
creates buckets and top-level objects of its owner under a display name. Most requests
only look.
-/
namespace ObjectGateway
namespace Gateway

def Gives (g : Gateway) : Command → Prop
  | .putBucket header => ∃ name, header =
      { owner := g.settings.owner
        policy := g.settings.policy
        acl := .restricted
        attributes := .named Attributes.nameKey name g.now }
  | .putObject header _ => ∃ bucket name, header =
      { bucket, owner := g.settings.owner
        attributes := .named Attributes.fileNameKey name g.now }
  | _ => True

variable {g : Gateway}

/-- The operation gives the commands of this gateway, and its result is of the kind `P`. -/
def Confines {α : Type} (g : Gateway) (p : FsProgram α) (P : α → Prop := fun _ => True) : Prop :=
  FsProgram.Confined g.Gives P p

/-- Any gateway may look. -/
theorem gives_of_looking (g : Gateway) {c : Command} (h : c.isMutating = false) : g.Gives c := by
  cases c with
  | putBucket header => cases h
  | putObject header payload => cases h
  | _ => trivial

theorem confines_of_peeks {α : Type} {p : FsProgram α} {P : α → Prop} (h : p.Peeks P) :
    g.Confines p P :=
  FsProgram.Confined.mono h (fun _ => g.gives_of_looking) fun _ => id

theorem fetchObject_peeks (g : Gateway) (bucket : BucketId) (id : ObjectId) (path : String) :
    FsProgram.Peeks (g.fetchObject bucket id path) :=
  (FsProgram.Peeks.call rfl).bind fun _ _ => .pure trivial

theorem listObjects_peeks (g : Gateway) (bucket : BucketId) (path : String) :
    FsProgram.Peeks (g.listObjects bucket path) :=
  (FsProgram.Peeks.call rfl).bind fun ids _ =>
    (FsProgram.Confined.mapM (fun id => g.fetchObject_peeks bucket id _) ids).bind fun _ _ =>
      .pure trivial

section Buckets

variable {A : Command → Prop} (hlist : ∀ owner, A (.listBuckets owner))
  (hget : ∀ id, A (.getBucket id))

include hget

theorem fetchBucket_confined (g : Gateway) (id : BucketId) (path : String) :
    FsProgram.Confined A (fun _ => True) (g.fetchBucket id path) :=
  (FsProgram.Confined.call (hget id) fun _ => trivial).bind fun _ _ => .pure trivial

include hlist

theorem listBuckets_confined (g : Gateway) :
    FsProgram.Confined A (fun _ => True) g.listBuckets :=
  (FsProgram.Confined.call (hlist _) fun _ => trivial).bind fun ids _ =>
    (FsProgram.Confined.mapM (fun id => g.fetchBucket_confined hget id _) ids).bind fun _ _ =>
      .pure trivial

/-- A bucket is resolved by commands about buckets alone. -/
theorem resolveBucket_confined (g : Gateway) (segment : String) :
    FsProgram.Confined A (fun _ => True) (g.resolveBucket segment) := by
  unfold resolveBucket
  cases (Id.parse? segment : Option BucketId) with
  | some id => exact g.fetchBucket_confined hget id _
  | none =>
    refine (g.listBuckets_confined hlist hget).bind ?_
    intro buckets _
    cases buckets.find? fun b => b.name == segment with
    | some b => exact .pure trivial
    | none => exact .throw _

end Buckets

theorem listBuckets_peeks (g : Gateway) : FsProgram.Peeks g.listBuckets :=
  g.listBuckets_confined (fun _ => rfl) fun _ => rfl

theorem resolveBucket_peeks (g : Gateway) (segment : String) :
    FsProgram.Peeks (g.resolveBucket segment) :=
  g.resolveBucket_confined (fun _ => rfl) (fun _ => rfl) segment

theorem findObject_peeks (g : Gateway) (bucket : BucketEntry) (name path : String) :
    FsProgram.Peeks (g.findObject bucket name path) := by
  unfold findObject
  cases bucket.id with
  | none => exact .pure trivial
  | some id =>
    refine (FsProgram.Peeks.call rfl).bind ?_
    intro ids _
    cases ids with
    | nil => exact .pure trivial
    | cons first rest => exact (g.fetchObject_peeks id first path).map fun _ _ => trivial

theorem resolveObject_peeks (g : Gateway) (bucket : BucketEntry) (segment path : String) :
    FsProgram.Peeks (g.resolveObject bucket segment path) := by
  unfold resolveObject
  cases bucket.id with
  | none => exact .throw _
  | some bucketId =>
    cases (Id.parse? segment : Option ObjectId) with
    | some id => exact g.fetchObject_peeks bucketId id path
    | none =>
      refine (g.findObject_peeks bucket segment path).bind ?_
      intro found _
      cases found with
      | some o => exact .pure trivial
      | none => exact .throw _

theorem stat_peeks (g : Gateway) (path : FsPath) : FsProgram.Peeks (g.stat path) := by
  cases path with
  | root => exact .pure trivial
  | bucket b => exact (g.resolveBucket_peeks b).map fun _ _ => trivial
  | object b o =>
    exact (g.resolveBucket_peeks b).bind fun bucket _ =>
      (g.resolveObject_peeks bucket o _).map fun _ _ => trivial

theorem list_peeks (g : Gateway) (path : FsPath) : FsProgram.Peeks (g.list path) := by
  cases path with
  | root => exact g.listBuckets_peeks.map fun _ _ => trivial
  | bucket b =>
    refine (g.resolveBucket_peeks b).bind ?_
    intro bucket _
    cases bucket.id with
    | none => exact .throw _
    | some id => exact (g.listObjects_peeks id _).map fun _ _ => trivial
  | object b o => exact .throw _

theorem openReader_peeks (g : Gateway) (path : FsPath) : FsProgram.Peeks (g.openReader path) := by
  cases path with
  | object b o =>
    refine (g.stat_peeks _).bind ?_
    intro entry _
    cases entry.object? with
    | some o => exact .pure trivial
    | none => exact .throw _
  | _ => exact .throw _

/-- In a writer that is opened nothing is staged. -/
theorem openWriter_peeks (g : Gateway) (path : FsPath) :
    (g.openWriter path).Peeks fun w => w.staging = {} := by
  cases path with
  | object b name =>
    refine (g.resolveBucket_peeks b).bind ?_
    intro bucket _
    cases bucket.id with
    | none => exact .throw _
    | some bucketId =>
      dsimp only
      split
      · refine (g.findObject_peeks bucket name _).bind fun found _ => ?_
        split
        · exact .throw_bind _
        · exact .openUnnamed (.pure rfl) fun _ => .throw _
      · exact .openUnnamed (.pure rfl) fun _ => .throw _
  | _ => exact .throw _

theorem makeBucket_confined (g : Gateway) (path : FsPath) : g.Confines (g.makeBucket path) := by
  cases path with
  | bucket name =>
    -- The bucket is made in the same way with and without a check of the name.
    have hput : ∀ path, g.Confines (do
        let _ ← FsProgram.call path <| .putBucket
          { owner := g.settings.owner
            policy := g.settings.policy
            acl := .restricted
            attributes := .named Attributes.nameKey name g.now }) := fun path =>
      (FsProgram.Confined.call ⟨name, rfl⟩ fun _ => trivial).bind fun _ _ => .pure trivial
    unfold makeBucket
    dsimp only
    split
    · refine (confines_of_peeks g.listBuckets_peeks).bind fun buckets _ => ?_
      split
      · exact .throw_bind _
      · exact hput _
    · exact hput _
  | _ => exact .throw _

theorem remove_confined (g : Gateway) (path : FsPath) : g.Confines (g.remove path) := by
  unfold remove
  cases path.bucket? with
  | none => exact .throw _
  | some segment =>
    refine (confines_of_peeks (g.resolveBucket_peeks segment)).bind ?_
    intro bucket _
    cases bucket.id with
    | none => exact .throw _
    | some bucketId =>
      cases path with
      | object b name =>
        refine (confines_of_peeks (g.findObject_peeks bucket name _)).bind ?_
        intro found _
        cases found with
        | some o => exact .call trivial fun _ => trivial
        | none => exact .throw _
      | _ => exact .call trivial fun _ => trivial

end Gateway

/-- A writer that is handed out has nothing staged. -/
def Response.Unstaged (r : Response) : Prop :=
  ∀ w, r = .writer w → w.staging = {}

namespace Gateway

/-- A request of a method that does not mutate only looks, and opens no writer. -/
theorem perform_peeks (g : Gateway) {request : Request} (h : request.method.isMutating = false) :
    (g.perform request).Peeks fun r => ∀ w, r ≠ .writer w := by
  cases request with
  | list path => exact (g.list_peeks path).map fun _ _ w => nofun
  | stat path => exact (g.stat_peeks path).map fun _ _ w => nofun
  | get path => exact (g.openReader_peeks path).map fun _ _ w => nofun
  | setstat path => exact .pure fun w => nofun
  | put | openFile | mkdir | remove | rmdir => cases h
  | _ => exact .throw _

theorem perform_confined (g : Gateway) (request : Request) :
    g.Confines (g.perform request) Response.Unstaged := by
  cases hmutating : request.method.isMutating with
  | false =>
    exact FsProgram.Confined.mono (g.perform_peeks hmutating) (fun _ => g.gives_of_looking)
      fun _ hr w hw => absurd hw (hr w)
  | true =>
    cases request with
    | put path | openFile path =>
      refine (confines_of_peeks (g.openWriter_peeks path)).map ?_
      intro w hw
      rintro _ ⟨⟩
      exact hw
    | mkdir path => exact (g.makeBucket_confined path).map fun _ _ w h => nomatch h
    | remove path | rmdir path => exact (g.remove_confined path).map fun _ _ w h => nomatch h
    | _ => cases hmutating

/-- A read-only gateway refuses a mutating method at once, without a call. -/
theorem dispatch_refused {g : Gateway} (hreadOnly : g.settings.readOnly = true) {request : Request}
    (h : request.method.isMutating = true) :
    (g.dispatch request).run = .done (.error (.permissionDenied request.path.text)) := by
  unfold dispatch
  rw [if_pos (by simp [h, hreadOnly])]
  rfl

/-- A gateway that refuses what mutates only looks. -/
theorem dispatch_peeks (g : Gateway) {request : Request}
    (h : request.method.isMutating = true → g.settings.readOnly = true) :
    (g.dispatch request).Peeks fun r => ∀ w, r ≠ .writer w := by
  cases hmutating : request.method.isMutating with
  | false =>
    rw [dispatch, hmutating]
    exact g.perform_peeks hmutating
  | true =>
    rw [FsProgram.Peeks, FsProgram.Confined, dispatch_refused (h hmutating) hmutating]
    exact nofun

/-- Where a writer is asked for, the gateway only looks. -/
theorem dispatch_peeks_of_writes (g : Gateway) {request : Request}
    (h : request.method = .put ∨ request.method = .openFile) : (g.dispatch request).Peeks := by
  unfold dispatch
  split
  · exact .throw _
  · cases request with
    | put path | openFile path => exact (g.openWriter_peeks path).map fun _ _ => trivial
    | _ => simp [Request.method] at h

theorem dispatch_confined (g : Gateway) (request : Request) :
    g.Confines (g.dispatch request) Response.Unstaged := by
  unfold dispatch
  split
  · exact .throw _
  · exact g.perform_confined request

/-- A writer gives one command, its upload. -/
theorem close_confined (g : Gateway) (w : Writer) : g.Confines (w.close g) :=
  FsProgram.Confined.call ⟨w.bucket, w.name, rfl⟩ fun _ => trivial

end Gateway

namespace Reader

/-- What a reader asks for is a range of its object. -/
theorem fetch_confined {A : Command → Prop} {r : Reader}
    (hA : ∀ offset length, A (.getRange r.entry.bucket r.entry.id offset length)) (wanted : Nat)
    (offset : Int) : FsProgram.Confined A (fun _ => True) (r.fetch wanted offset) := by
  unfold fetch
  split
  · exact .throw _
  · split
    · exact .pure trivial
    · split
      · exact .pure trivial
      · exact (FsProgram.Confined.call (hA _ _) fun _ => trivial).bind fun _ _ => .pure trivial

/-- What a read leaves in the buffer: what was fetched, if it was, before the rest of it. -/
theorem fill_eq (r : Reader) (buffer : Bytes) (offset : Int) :
    (r.fill offset).run.run buffer = (do
      match ← (r.fetch buffer.length offset).run with
      | .ok (data, eof) => return (.ok (data.length, eof), data ++ buffer.drop data.length)
      | .error cause => return (.error cause, buffer)) := by
  change Program.bind (Program.bind (r.fetch buffer.length offset).run _) _ = Program.bind _ _
  rw [Program.bind_assoc]
  refine congrArg (r.fetch buffer.length offset).run.bind (funext fun fetched => ?_)
  cases fetched <;> rfl

/-- The buffer is reported as it is left. -/
theorem readAt_eq (r : Reader) (buffer : Bytes) (offset : Int) :
    r.readAt buffer offset = (do
      let (data, eof) ← r.fetch buffer.length offset
      return ⟨data.length, eof, data ++ buffer.drop data.length⟩) := by
  rw [readAt, fill_eq]
  change Program.bind (Program.bind (r.fetch buffer.length offset).run _) _ = Program.bind _ _
  rw [Program.bind_assoc]
  refine congrArg (r.fetch buffer.length offset).run.bind (funext fun fetched => ?_)
  cases fetched <;> rfl

theorem readAt_peeks (r : Reader) (buffer : Bytes) (offset : Int) :
    (r.readAt buffer offset).Peeks := by
  rw [readAt_eq]
  exact (fetch_confined (fun _ _ => rfl) buffer.length offset).bind fun _ _ => .pure trivial

end Reader
end ObjectGateway
