import ObjectGateway.Proofs.Gateway.Resolve
import ObjectGateway.Proofs.Gateway.Streams
/-!
# Listings stop at the first failure

A listing asks the store for all identifiers at once, and then for one entry after another.
It stops at the first entry that cannot be fetched. What it asks a store in memory for, and
in which order, is known for every choice of failing entries.
-/
namespace ObjectGateway

open Memory (Store StoredBucket StoredObject)

variable {α β ι : Type} {ctx : Context} {w : World Store} {m : Store}

namespace Memory

def countedBy (n : Nat) (w : World Store) : World Store :=
  { w with store := { w.store with calls := w.store.calls + n } }

/-- A call that only looks is answered at once and counted, unless the request has been
cancelled before or the store is stalled. -/
theorem settle_looked (hctx : ctx.interruption ≠ .already) (hawake : w.store.stalled = false)
    {c : Command} {answer : Except BackendError c.Answer}
    (hserve : serve (counted w) c = looked (counted w) answer) :
    ctx.settle w (backend.call c w) = (answer, counted w) := by
  have hcall : backend.call c w = looked (counted w) answer := by
    rw [← hserve]
    simp [backend, call, counted, hawake]
  rw [hcall]
  cases hinterruption : ctx.interruption with
  | already => exact absurd hinterruption hctx
  | whileWaiting => simp [Context.settle, hinterruption, looked, answered, Context.await]
  | never => cases hlimit : ctx.limit.isZero <;>
      simp [Context.settle, hinterruption, hlimit, looked, answered, Context.await]

theorem Store.head_of_mem (hm : m.Apart) {found : StoredBucket} (hfound : found ∈ m.buckets)
    {o : StoredObject} (ho : o ∈ found.objects) (hanswers : o.info.id ∉ m.failingHeads) :
    m.head found.info.id o.info.id = .ok o.info := by
  have hnever : m.failingHeads.contains o.info.id = false := by simpa using hanswers
  simp only [Store.head, hnever, hm.object?_of_mem hfound ho, Bool.false_eq_true, if_false]

theorem Store.head_of_failing (bucket : BucketId) {id : ObjectId} (h : id ∈ m.failingHeads) :
    m.head bucket id = .error (.io (.custom "injected head failure")) := by
  simp only [Store.head, List.contains_iff_mem.mpr h, if_true]

end Memory

-- ---------------------------------------------------------------------------
-- What an operation asks a store in memory for
-- ---------------------------------------------------------------------------

/-- However many calls have been counted in the world, the operation comes to `r` and gives
these commands one after another, each of which is counted, and that is all. -/
def FsProgram.Asks (ctx : Context) (w : World Store) (p : FsProgram α) (r : Except FsError α)
    (commands : List Command) : Prop :=
  ∀ n log, p.run.run (ctx.interpreter Memory.backend).recording (Memory.countedBy n w, log) =
    (r, Memory.countedBy (n + commands.length) w, log ++ commands)

namespace FsProgram

open Source (fetched)

variable {p : FsProgram α} {r : Except FsError α} {commands : List Command}

/-- The commands that a request gives to a store in memory, first to last, and what it is
told. The store counts the commands and stays as it is. -/
structure Transcript (ctx : Context) (w : World Store) (p : FsProgram α) (r : Except FsError α)
    (commands : List Command) : Prop where
  issued : ctx.issued Memory.backend p.run w = commands
  run : ctx.run Memory.backend p.run w = (r, Memory.countedBy commands.length w)

theorem Asks.transcript (h : Asks ctx w p r commands) : Transcript ctx w p r commands := by
  have hrecord := h 0 []
  rw [Nat.zero_add] at hrecord
  refine ⟨congrArg (·.2.2) hrecord, ?_⟩
  refine (Program.run_recording (ctx.interpreter Memory.backend) p.run (w, [])).trans ?_
  exact congrArg (fun left => (left.1, left.2.1)) hrecord

theorem Asks.looked (hctx : ctx.interruption ≠ .already) (hawake : w.store.stalled = false)
    (path : String) {c : Command} {answer : Except BackendError c.Answer}
    (hserve : ∀ n, Memory.serve (Memory.countedBy n w) c =
      Memory.looked (Memory.countedBy n w) answer) :
    Asks ctx w (FsProgram.call path c) (answer.mapError (.ofBackend c.name path)) [c] := by
  intro n log
  have hsettle := Memory.settle_looked (w := Memory.countedBy n w) hctx hawake (hserve (n + 1))
  rw [run_call]
  simp only [Program.Interpreter.recording, Context.interpreter, hsettle]
  rfl

theorem Asks.map (h : Asks ctx w p r commands) (f : α → β) :
    Asks ctx w (f <$> p) (r.map f) commands := by
  intro n log
  rw [run_map, h n log]

theorem Asks.bind_ok {a : α} (h : Asks ctx w p (.ok a) commands) {k : α → FsProgram β}
    {r : Except FsError β} {later : List Command} (hk : Asks ctx w (k a) r later) :
    Asks ctx w (p >>= k) r (commands ++ later) := by
  intro n log
  rw [run_bind, h n log]
  simp only [hk (n + commands.length) (log ++ commands), List.length_append, Nat.add_assoc,
    List.append_assoc]

/-- As long as nothing fails, one entry after another is fetched. -/
theorem Asks.gives {f : ι → FsProgram α} {c : ι → Command} {entry : ι → α} {xs : List ι}
    (h : ∀ x ∈ xs, Asks ctx w (f x) (.ok (entry x)) [c x]) (rest : List ι) (n : Nat)
    (log : List Command) :
    (fetched (ctx.interpreter Memory.backend).recording f).Gives
      (xs ++ rest, Memory.countedBy n w, log) (xs.map entry)
      (rest, Memory.countedBy (n + xs.length) w, log ++ xs.map c) := by
  induction xs generalizing n log with
  | nil =>
    simp only [List.map_nil, List.append_nil]
    exact .nil _
  | cons x xs ih =>
    have hnext : fetched (ctx.interpreter Memory.backend).recording f
        (x :: xs ++ rest, Memory.countedBy n w, log) =
          (some (.ok (entry x)), xs ++ rest, Memory.countedBy (n + 1) w, log ++ [c x]) := by
      rw [List.cons_append, fetched, h x List.mem_cons_self n log]
      rfl
    have hrest := ih (fun y hy => h y (List.mem_cons_of_mem x hy)) (n + 1) (log ++ [c x])
    rw [Nat.add_assoc, Nat.add_comm 1, List.append_assoc, List.singleton_append] at hrest
    exact .cons hnext hrest

/-- When all entries are there, the first one of each name is shown. -/
theorem Asks.firsts {f : ι → FsProgram α} {c : ι → Command} {entry : ι → α} {xs : List ι}
    (h : ∀ x ∈ xs, Asks ctx w (f x) (.ok (entry x)) [c x]) (name : α → String) :
    Asks ctx w (Listing.distinct name <$> xs.mapM f) (.ok (Listing.firsts name (xs.map entry)))
      (xs.map c) := by
  intro n log
  have hgives := Asks.gives h [] n log
  rw [List.append_nil] at hgives
  rw [← Listing.distinct_eq_firsts, List.length_map]
  exact Source.run_fetched hgives (.ended rfl)

/-- The first entry that fails is the last one that is asked for. -/
theorem Asks.fails {f : ι → FsProgram α} {c : ι → Command} {entry : ι → α} {front : List ι}
    (h : ∀ x ∈ front, Asks ctx w (f x) (.ok (entry x)) [c x]) {x : ι} {cause : FsError}
    (hx : Asks ctx w (f x) (.error cause) [c x]) (back : List ι) (name : α → String) :
    Asks ctx w (Listing.distinct name <$> (front ++ x :: back).mapM f) (.error cause)
      ((front ++ [x]).map c) := by
  intro n log
  have hgives := Asks.gives h (x :: back) n log
  have hnext : fetched (ctx.interpreter Memory.backend).recording f
      (x :: back, Memory.countedBy (n + front.length) w, log ++ front.map c) =
        (some (.error cause), back, Memory.countedBy (n + front.length + 1) w,
          log ++ front.map c ++ [c x]) := by
    rw [fetched, hx]
    rfl
  rw [Source.run_fetched hgives (.failed hnext)]
  simp [Nat.add_assoc]

end FsProgram

-- ---------------------------------------------------------------------------
-- Listings of a store in memory
-- ---------------------------------------------------------------------------

namespace Gateway

open FsProgram

variable (g : Gateway) {found : StoredBucket} (hctx : ctx.interruption ≠ .already)
  (hawake : w.store.stalled = false)

include hctx hawake

theorem fetchBucket_asks (hapart : w.store.Apart) (hfound : found ∈ w.store.buckets)
    (path : String) : Asks ctx w (g.fetchBucket found.info.id path) (.ok (g.bucketEntry found))
      [.getBucket found.info.id] := by
  have hserve : ∀ n, Memory.serve (Memory.countedBy n w) (.getBucket found.info.id) =
      Memory.looked (Memory.countedBy n w) (.ok found.info) := by
    intro n
    have hthere : (Memory.countedBy n w).store.bucket? found.info.id = some found :=
      hapart.bucket?_of_mem hfound
    simp only [Memory.serve, hthere]
  have hcall := Asks.looked (c := .getBucket found.info.id) hctx hawake path hserve
  rw [fetchBucket, ← map_eq_pure_bind]
  exact hcall.map (BucketEntry.ofMeta g.now)

theorem fetchObject_asks {bucket : BucketId} {id : ObjectId}
    {answer : Except BackendError ObjectMeta} (hhead : w.store.head bucket id = answer)
    (path : String) :
    Asks ctx w (g.fetchObject bucket id path)
      ((answer.mapError (.ofBackend "head_object" path)).map (ObjectEntry.ofMeta g.now))
      [.headObject bucket id] := by
  have hserve : ∀ n, Memory.serve (Memory.countedBy n w) (.headObject bucket id) =
      Memory.looked (Memory.countedBy n w) answer := fun n => congrArg (Memory.looked _) hhead
  have hcall := Asks.looked (c := .headObject bucket id) hctx hawake path hserve
  rw [fetchObject, ← map_eq_pure_bind]
  exact hcall.map (ObjectEntry.ofMeta g.now)

/-- The identifiers of a bucket are asked for before its entries. -/
theorem listObjects_asks (hapart : w.store.Apart) (hfound : found ∈ w.store.buckets)
    (path : String) {r : Except FsError (List ObjectEntry)} {heads : List Command}
    (hentries : Asks ctx w (Listing.distinct ObjectEntry.name <$> found.roots.mapM fun o =>
      g.fetchObject found.info.id o.info.id (path ++ "/" ++ o.info.id.text)) r heads) :
    Asks ctx w (g.listObjects found.info.id path) r
      (.searchObjects found.info.id [.root] :: heads) := by
  have hroots : found.objects.filter (fun o => [SearchFilter.root].all o.satisfies) =
      found.roots := by
    simp [StoredBucket.roots, StoredObject.satisfies]
  have hserve : ∀ n, Memory.serve (Memory.countedBy n w) (.searchObjects found.info.id [.root]) =
      Memory.looked (Memory.countedBy n w) (.ok (found.roots.map (·.info.id))) := by
    intro n
    have hthere : (Memory.countedBy n w).store.bucket? found.info.id = some found :=
      hapart.bucket?_of_mem hfound
    simp only [Memory.serve, Store.search, hthere, hroots]
  have hcall := Asks.looked (c := .searchObjects found.info.id [.root]) hctx hawake path hserve
  refine hcall.bind_ok ?_
  rwa [List.mapM_map, ← map_eq_pure_bind]

theorem listBuckets_asks (hapart : w.store.Apart) :
    let owned := w.store.buckets.filter fun b => b.info.owner == g.settings.owner
    Asks ctx w g.listBuckets (.ok (Listing.firsts BucketEntry.name (owned.map g.bucketEntry)))
      (.listBuckets g.settings.owner :: owned.map fun b => .getBucket b.info.id) := by
  intro owned
  have hserve : ∀ n, Memory.serve (Memory.countedBy n w) (.listBuckets g.settings.owner) =
      Memory.looked (Memory.countedBy n w) (.ok (owned.map (·.info.id))) := fun _ => rfl
  have hcall := Asks.looked (c := .listBuckets g.settings.owner) hctx hawake "/" hserve
  have hfetch : ∀ b ∈ owned, Asks ctx w (g.fetchBucket b.info.id ("/" ++ b.info.id.text))
      (.ok (g.bucketEntry b)) [.getBucket b.info.id] := fun b hb =>
    g.fetchBucket_asks hctx hawake hapart (List.mem_of_mem_filter hb) _
  have hentries := Asks.firsts hfetch BucketEntry.name
  refine hcall.bind_ok ?_
  rwa [List.mapM_map, ← map_eq_pure_bind]

end Gateway

-- ---------------------------------------------------------------------------
-- All or nothing
-- ---------------------------------------------------------------------------

open FsProgram (Transcript)

/-- Of any stream comes its first failure, behind which nothing is asked for, or else, at its
end, the first item of each name; so it is with a list, and with entries that are fetched from
any backend. So a listing of a store in memory that answers fetches one entry after another in
the order of enumeration. The first one that cannot be fetched is the last one asked for and
its failure is the answer, and when there is none the first entry of each name is shown. -/
theorem listing_first_seen :
    (∀ {ς α : Type} (next : Source ς α) (name : α → String) (s left : ς)
      (r : Except FsError (List α)), next.Collects name [] s r left ↔
        ∃ xs behind, next.Gives s xs behind ∧
          next.Stops (Listing.firsts name xs) behind r left) ∧
    (∀ {α : Type} (name : α → String) (items : List (Except FsError α)), ∃ left,
      Source.listed.Collects name [] items (Listing.firstSeen name items) left) ∧
    (∀ {σ ι α : Type} (i : Program.Interpreter σ) (name : α → String) (f : ι → FsProgram α)
      (ids : List ι) (s : σ), ∃ rest,
        let r := (Listing.distinct name <$> ids.mapM f).run.run i s
        (Source.fetched i f).Collects name [] (ids, s) r.1 (rest, r.2)) ∧
    ∀ (g : Gateway) (ctx : Context) (w : World Store), ctx.interruption ≠ .already →
      w.store.stalled = false → w.store.Apart →
      (∀ found ∈ w.store.buckets, ∀ path,
        let search : Command := .searchObjects found.info.id [.root]
        let head (o : StoredObject) : Command := .headObject found.info.id o.info.id
        (∀ front x back, found.roots = front ++ x :: back →
          (∀ o ∈ front, o.info.id ∉ w.store.failingHeads) →
          x.info.id ∈ w.store.failingHeads →
            Transcript ctx w (g.listObjects found.info.id path)
              (.error (.backend "head_object" (path ++ "/" ++ x.info.id.text)
                (.io (.custom "injected head failure"))))
              (search :: (front ++ [x]).map head)) ∧
        ((∀ o ∈ found.roots, o.info.id ∉ w.store.failingHeads) →
          Transcript ctx w (g.listObjects found.info.id path)
            (.ok (Listing.firsts ObjectEntry.name (found.roots.map g.objectEntry)))
            (search :: found.roots.map head))) ∧
      let owned := w.store.buckets.filter fun b => b.info.owner == g.settings.owner
      Transcript ctx w g.listBuckets
        (.ok (Listing.firsts BucketEntry.name (owned.map g.bucketEntry)))
        (.listBuckets g.settings.owner :: owned.map fun b => .getBucket b.info.id) := by
  refine ⟨?_, Source.listed_collects, Source.fetched_collects, ?_⟩
  · intro ς α next name s left r
    simp only [Source.collects_iff, Listing.distinct_eq_firsts]
  · intro g ctx w hctx hawake hapart
    refine ⟨?_, (g.listBuckets_asks hctx hawake hapart).transcript⟩
    intro found hfound path search head
    have hfetched : ∀ os : List StoredObject, (∀ o ∈ os, o ∈ found.roots) →
        (∀ o ∈ os, o.info.id ∉ w.store.failingHeads) → ∀ o ∈ os,
          FsProgram.Asks ctx w
            (g.fetchObject found.info.id o.info.id (path ++ "/" ++ o.info.id.text))
            (.ok (g.objectEntry o)) [head o] := fun os hroots hheads o ho =>
      g.fetchObject_asks hctx hawake
        (Store.head_of_mem hapart hfound (List.mem_of_mem_filter (hroots o ho)) (hheads o ho)) _
    constructor
    · intro front x back hsplit hfront hx
      have hfails := FsProgram.Asks.fails
        (hfetched front (fun o ho => hsplit ▸ List.mem_append_left _ ho) hfront)
        (g.fetchObject_asks hctx hawake (Store.head_of_failing found.info.id hx) _) back
        ObjectEntry.name
      rw [← hsplit] at hfails
      exact (g.listObjects_asks hctx hawake hapart hfound path hfails).transcript
    · intro hheads
      have hfirsts := FsProgram.Asks.firsts (hfetched found.roots (fun _ ho => ho) hheads)
        ObjectEntry.name
      exact (g.listObjects_asks hctx hawake hapart hfound path hfirsts).transcript

def emptyObject (id : ObjectId) (name : String) : StoredObject :=
  .ofHeader id { bucket := ⟨0⟩, owner := Id.nil,
                 attributes := ⟨[(Attributes.fileNameKey, name)]⟩ } []

/-- A bucket with two objects of one name and one of another name. -/
def threeObjects : StoredBucket where
  info := ⟨⟨0⟩, Id.nil, defaultPolicy, .restricted, {}⟩
  objects := [emptyObject ⟨1⟩ "a", emptyObject ⟨2⟩ "a", emptyObject ⟨3⟩ "b"]

/-- All three are fetched and two are shown. When the second one cannot be fetched, nothing is
shown and the third one is not asked for. -/
theorem listing_first_seen_threeObjects :
    let g : Gateway := ⟨{}, 1, 0⟩
    let world (failing : List ObjectId) : World Store :=
      ⟨{ ids := ⟨BitVec.ofNat 128, 0⟩ }, { buckets := [threeObjects], failingHeads := failing }⟩
    let search : Command := .searchObjects ⟨0⟩ [.root]
    let head (id : ObjectId) : Command := .headObject ⟨0⟩ id
    ({} : Context).interruption ≠ .already ∧
      (∀ failing, (world failing).store.stalled = false ∧ (world failing).store.Apart) ∧
      Transcript {} (world []) (g.listObjects ⟨0⟩ "/b")
        (.ok [⟨⟨0⟩, ⟨1⟩, "a", none, 0, 0⟩, ⟨⟨0⟩, ⟨3⟩, "b", none, 0, 0⟩])
        [search, head ⟨1⟩, head ⟨2⟩, head ⟨3⟩] ∧
      Transcript {} (world [⟨2⟩]) (g.listObjects ⟨0⟩ "/b")
        (.error (.backend "head_object" ("/b" ++ "/" ++ (⟨2⟩ : ObjectId).text)
          (.io (.custom "injected head failure")))) [search, head ⟨1⟩, head ⟨2⟩] := by
  intro g world search head
  have hctx : ({} : Context).interruption ≠ .already := by decide
  have hbuckets : ([threeObjects].map (·.info.id)).Nodup := by decide +kernel
  have hobjects : ∀ b ∈ [threeObjects], (b.objects.map (·.info.id)).Nodup := by decide +kernel
  have hapart : ∀ failing, (world failing).store.Apart := fun _ => ⟨hbuckets, hobjects⟩
  have hlists := fun failing =>
    (listing_first_seen.2.2.2 g {} (world failing) hctx rfl (hapart failing)).1 threeObjects
      List.mem_cons_self "/b"
  have hroots : threeObjects.roots =
      [emptyObject ⟨1⟩ "a"] ++ emptyObject ⟨2⟩ "a" :: [emptyObject ⟨3⟩ "b"] := by decide +kernel
  have hfirsts : Listing.firsts ObjectEntry.name (threeObjects.roots.map g.objectEntry) =
      [⟨⟨0⟩, ⟨1⟩, "a", none, 0, 0⟩, ⟨⟨0⟩, ⟨3⟩, "b", none, 0, 0⟩] := by decide +kernel
  refine ⟨hctx, fun failing => ⟨rfl, hapart failing⟩, ?_, ?_⟩
  · have hshown := (hlists []).2 fun _ _ => List.not_mem_nil
    rw [hfirsts, hroots] at hshown
    exact hshown
  · have hfront : ∀ o ∈ [emptyObject ⟨1⟩ "a"], o.info.id ∉ [(⟨2⟩ : ObjectId)] := by decide +kernel
    have hsecond : (emptyObject ⟨2⟩ "a").info.id ∈ (world [⟨2⟩]).store.failingHeads :=
      List.mem_cons_self
    have hfails := (hlists [⟨2⟩]).1 _ _ _ hroots hfront hsecond
    -- The identifiers are written out, for the texts made of them are long to compare.
    have hbucket : threeObjects.info.id = ⟨0⟩ := rfl
    have hid : ∀ id name, (emptyObject id name).info.id = id := fun _ _ => rfl
    simp only [hbucket, hid, List.map_cons, List.map_nil, List.cons_append,
      List.nil_append] at hfails
    exact hfails

end ObjectGateway
