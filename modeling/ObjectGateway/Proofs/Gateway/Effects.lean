import ObjectGateway.Proofs.Backend.Disturbed
import ObjectGateway.Proofs.Gateway.Resolve
import ObjectGateway.Proofs.Gateway.Writers
import ObjectGateway.Proofs.Memory.Changes
/-!
# Operations do all or nothing

Every operation looks first. The one call that changes the store, if the operation makes
such a call at all, comes last. So an operation that fails has changed nothing, whichever
of its calls failed, and one that succeeds has made the one change it is there for.
-/
namespace ObjectGateway

open Memory (Store StoredBucket StoredObject)

/-- The first top-level object that is stored under a file name. -/
def Memory.StoredBucket.named? (b : StoredBucket) (name : String) : Option StoredObject :=
  b.objects.find? fun o =>
    [SearchFilter.root, .attribute Attributes.fileNameKey name].all o.satisfies

theorem Memory.StoredBucket.named?_eq_some {b : StoredBucket} {name : String} {o : StoredObject}
    (h : b.named? name = some o) : o ∈ b.objects :=
  List.mem_of_find?_eq_some h

namespace Gateway

open FsProgram

variable {m left : Store} (g : Gateway)

-- ---------------------------------------------------------------------------
-- Looks
-- ---------------------------------------------------------------------------

theorem fetchBucket_looks (m : Store) (id : BucketId) (path : String) :
    Looks m (g.fetchBucket id path) fun entry =>
      ∃ b, m.bucket? id = some b ∧ entry = g.bucketEntry b := by
  refine Looks.bind (looks_getBucket m path id) ?_
  rintro _ ⟨b, hfind, rfl⟩
  exact Looks.pure ⟨b, hfind, rfl⟩

theorem listBuckets_looks (hm : m.Apart) : Looks m g.listBuckets (· = g.bucketsIn m) := by
  refine Looks.bind (looks_listBuckets m _ _) ?_
  rintro _ rfl
  rw [List.mapM_map]
  have hentries := Looks.mapM (m := m) (g := g.bucketEntry)
    (f := fun b => g.fetchBucket b.info.id ("/" ++ b.info.id.text))
    (m.buckets.filter fun b => b.info.owner == g.settings.owner) fun b hb => by
      refine (g.fetchBucket_looks m b.info.id _).imp ?_
      rintro _ ⟨b', hfind, rfl⟩
      rw [hm.bucket?_of_mem (List.mem_of_mem_filter hb)] at hfind
      cases hfind
      rfl
  refine Looks.bind hentries ?_
  rintro _ rfl
  rw [Listing.distinct_map]
  exact Looks.pure rfl

theorem resolveBucket_looks (hm : m.Apart) (segment : String) :
    Looks m (g.resolveBucket segment) fun entry =>
      ∃ b, m.resolve g.settings.owner segment = some b ∧ entry = g.bucketEntry b := by
  unfold resolveBucket Store.resolve
  cases (Id.parse? segment : Option BucketId) with
  | some id => exact g.fetchBucket_looks m id _
  | none =>
    refine Looks.bind (g.listBuckets_looks hm) ?_
    rintro _ rfl
    have hfind : (g.bucketsIn m).find? (fun b => b.name == segment) =
        ((m.buckets.filter fun b => b.info.owner == g.settings.owner).find? fun b =>
          b.name == segment).map g.bucketEntry := by
      rw [bucketsIn, List.find?_map]
      exact congrArg (Option.map g.bucketEntry) (Listing.find?_distinct _ _ segment)
    rw [hfind]
    cases (m.buckets.filter fun b => b.info.owner == g.settings.owner).find? fun b =>
        b.name == segment with
    | some b => exact Looks.pure ⟨b, rfl, rfl⟩
    | none => exact .throw _

theorem fetchObject_looks (m : Store) (bucket : BucketId) (id : ObjectId) (path : String) :
    Looks m (g.fetchObject bucket id path) fun entry =>
      ∃ o, m.object? bucket id = some o ∧ entry = g.objectEntry o := by
  refine Looks.bind (looks_headObject m path bucket id) ?_
  rintro _ ⟨o, hfind, rfl⟩
  exact Looks.pure ⟨o, hfind, rfl⟩

theorem listObjects_looks (m : Store) (bucket : BucketId) (path : String) :
    Looks m (g.listObjects bucket path) fun _ => True := by
  refine Looks.bind ((looks_searchObjects m path bucket _).imp fun _ _ => trivial) fun ids _ => ?_
  refine Looks.bind (P := fun _ => True) ?_ fun _ _ => Looks.pure trivial
  induction ids with
  | nil => exact Looks.pure trivial
  | cons id ids ih =>
    rw [List.mapM_cons]
    exact Looks.bind (g.fetchObject_looks m bucket id _) fun _ _ =>
      Looks.bind ih fun _ _ => Looks.pure trivial

theorem findObject_looks (hm : m.Apart) {found : StoredBucket} (hfound : found ∈ m.buckets)
    (name path : String) :
    Looks m (g.findObject (g.bucketEntry found) name path)
      (· = (found.named? name).map g.objectEntry) := by
  refine Looks.bind (looks_searchObjects m path found.info.id _) ?_
  rintro _ ⟨b, hfind, rfl⟩
  rw [hm.bucket?_of_mem hfound] at hfind
  cases hfind
  rw [StoredBucket.named?, ← List.head?_filter]
  -- The first of the objects found is fetched, and none of the others.
  cases hfirst : found.objects.filter fun o =>
      [SearchFilter.root, .attribute Attributes.fileNameKey name].all o.satisfies with
  | nil => exact Looks.pure rfl
  | cons o rest =>
    have ho : o ∈ found.objects := by
      apply List.mem_of_mem_filter
      rw [hfirst]
      exact List.mem_cons_self
    refine Looks.map ((g.fetchObject_looks m found.info.id o.info.id path).imp ?_)
    rintro _ ⟨o', hfind, rfl⟩
    rw [hm.object?_of_mem hfound ho] at hfind
    cases hfind
    rfl

theorem resolveObject_looks (hm : m.Apart) {found : StoredBucket} (hfound : found ∈ m.buckets)
    (segment path : String) :
    Looks m (g.resolveObject (g.bucketEntry found) segment path) fun _ => True := by
  unfold resolveObject
  dsimp only [bucketEntry, BucketEntry.ofMeta]
  cases (Id.parse? segment : Option ObjectId) with
  | some id => exact (g.fetchObject_looks m found.info.id id path).imp fun _ _ => trivial
  | none =>
    refine Looks.bind (g.findObject_looks hm hfound segment path) ?_
    rintro _ rfl
    cases found.named? segment with
    | some o => exact Looks.pure trivial
    | none => exact .throw _

/-- What is done in the bucket that a segment leads to. -/
theorem resolveBucket_then {α : Type} (hm : m.Apart) (segment : String)
    {k : BucketEntry → FsProgram α} {Q : α → Store → Prop}
    (hk : ∀ found, m.resolve g.settings.owner segment = some found → found ∈ m.buckets →
      AllOrNothing m (k (g.bucketEntry found)) Q) :
    AllOrNothing m (g.resolveBucket segment >>= k) Q := by
  refine Looks.bind (g.resolveBucket_looks hm segment) ?_
  rintro _ ⟨found, hfind, rfl⟩
  exact hk found hfind (Memory.Store.mem_of_resolve hfind)

theorem stat_looks (hm : m.Apart) (path : FsPath) : Looks m (g.stat path) fun _ => True := by
  cases path with
  | root => exact Looks.pure trivial
  | bucket segment =>
    exact Looks.map ((g.resolveBucket_looks hm segment).imp fun _ _ => trivial)
  | object segment name =>
    exact g.resolveBucket_then hm segment fun found _ hfound =>
      Looks.map (g.resolveObject_looks hm hfound name _)

theorem list_looks (hm : m.Apart) (path : FsPath) : Looks m (g.list path) fun _ => True := by
  cases path with
  | root => exact Looks.map ((g.listBuckets_looks hm).imp fun _ _ => trivial)
  | bucket segment =>
    exact g.resolveBucket_then hm segment fun found _ _ =>
      Looks.map (g.listObjects_looks m found.info.id _)
  | object segment name => exact .throw _

theorem openReader_looks (hm : m.Apart) (path : FsPath) :
    Looks m (g.openReader path) fun _ => True := by
  cases path with
  | object segment name =>
    refine Looks.bind (g.stat_looks hm _) fun entry _ => ?_
    cases entry.object? with
    | some o => exact Looks.pure trivial
    | none => exact .throw _
  | _ => exact .throw _

-- ---------------------------------------------------------------------------
-- What requests are there for
-- ---------------------------------------------------------------------------

/-- The writer that is opened on a path. When duplicates are refused, the name is free. -/
inductive Opens (g : Gateway) (m : Store) : FsPath → Writer → Prop
  | object {segment name : String} {found : StoredBucket}
      (resolved : m.resolve g.settings.owner segment = some found)
      (free : g.settings.rejectDuplicates → found.named? name = none) :
      Opens g m (.object segment name)
        { bucket := found.info.id, name, path := (FsPath.object segment name).text }

def newBucket (g : Gateway) (id : BucketId) (name : String) : StoredBucket where
  info :=
    { id
      owner := g.settings.owner
      policy := g.settings.policy
      acl := .restricted
      attributes := .named Attributes.nameKey name g.now }

/-- The bucket that is created under a path comes behind all others. When duplicates are
refused, the name is free. -/
inductive Makes (g : Gateway) (m left : Store) : FsPath → Prop
  | bucket {name : String} {id : BucketId}
      (free : g.settings.rejectDuplicates → ∀ b ∈ m.buckets,
        b.info.owner = g.settings.owner → b.name ≠ name)
      (gains : m.GainsBucket (g.newBucket id name) left) :
      Makes g m left (.bucket name)

/-- What a path names is taken out: an object that is found by its name, or a bucket with
all its objects. -/
inductive Removes (g : Gateway) (m left : Store) : FsPath → Prop
  | object {segment name : String} {found : StoredBucket} {o : StoredObject}
      (resolved : m.resolve g.settings.owner segment = some found)
      (named : found.named? name = some o) (loses : m.LosesObject found o left) :
      Removes g m left (.object segment name)
  | bucket {segment : String} {found : StoredBucket}
      (resolved : m.resolve g.settings.owner segment = some found)
      (loses : m.LosesBucket found left) :
      Removes g m left (.bucket segment)

/-- What a request that is carried out leaves of a store. -/
def Leaves (g : Gateway) (m : Store) (request : Request) (left : Store) : Prop :=
  match request with
  | .mkdir path => g.Makes m left path
  | .remove path | .rmdir path => g.Removes m left path
  | _ => left = m

/-- What a request that is carried out does: to the store, and with the writer that it
hands out. -/
structure Effect (g : Gateway) (m : Store) (request : Request) (response : Response)
    (left : Store) : Prop where
  leaves : g.Leaves m request left
  opens : ∀ writer, response = .writer writer → g.Opens m request.path writer

theorem openWriter_looks (hm : m.Apart) (path : FsPath) :
    Looks m (g.openWriter path) (g.Opens m path) := by
  cases path with
  | object segment name =>
    refine g.resolveBucket_then hm segment fun found hfind hfound => ?_
    dsimp only [bucketEntry, BucketEntry.ofMeta]
    -- A free name is asked for only when duplicates are refused.
    split
    · refine Looks.bind (g.findObject_looks hm hfound name _) ?_
      rintro _ rfl
      split
      · exact .throw_bind _
      · rename_i hfree
        refine .openUnnamed (Looks.pure ⟨hfind, fun _ => ?_⟩) fun _ => .throw _
        simpa using hfree
    · rename_i hallowed
      exact .openUnnamed (Looks.pure ⟨hfind, fun h => absurd h hallowed⟩) fun _ => .throw _
  | _ => exact .throw _

theorem makeBucket_makes (hm : m.Apart) (path : FsPath) :
    AllOrNothing m (g.makeBucket path) fun _ left => g.Makes m left path := by
  cases path with
  | bucket name =>
    have hput : ∀ path, (g.settings.rejectDuplicates → ∀ b ∈ m.buckets,
        b.info.owner = g.settings.owner → b.name ≠ name) →
        AllOrNothing m (FsProgram.call path (.putBucket
          { owner := g.settings.owner
            policy := g.settings.policy
            acl := .restricted
            attributes := .named Attributes.nameKey name g.now }) >>= fun _ => pure ())
          fun _ left => g.Makes m left (.bucket name) := by
      intro path hfree
      rw [← map_eq_pure_bind]
      refine AllOrNothing.map (AllOrNothing.call ?_)
      intro host _ _
      exact .bucket hfree rfl
    unfold makeBucket
    dsimp only
    split
    · refine Looks.bind (g.listBuckets_looks hm) ?_
      rintro _ rfl
      split
      · exact .throw_bind _
      · rename_i hfree
        refine hput _ fun _ b hb howner hname => hfree (List.any_eq_true.mpr ?_)
        -- The name of a bucket that was left out of the listing is listed all the same.
        have hshown : name ∈ (Listing.distinct StoredBucket.name
            (m.buckets.filter fun b => b.info.owner == g.settings.owner)).map
              StoredBucket.name := by
          rw [Listing.mem_map_distinct, ← hname]
          exact List.mem_map_of_mem (List.mem_filter.mpr ⟨hb, beq_iff_eq.mpr howner⟩)
        obtain ⟨b', hb', rfl⟩ := List.mem_map.mp hshown
        exact ⟨g.bucketEntry b', List.mem_map_of_mem hb', beq_self_eq_true _⟩
    · rename_i hallowed
      exact hput _ fun h => absurd h hallowed
  | _ => exact .throw _

theorem remove_removes (hm : m.Apart) (path : FsPath) :
    AllOrNothing m (g.remove path) fun _ left => g.Removes m left path := by
  unfold remove
  cases path with
  | root => exact .throw _
  | bucket segment =>
    refine g.resolveBucket_then hm segment fun found hfind hfound => ?_
    refine AllOrNothing.call fun host _ _ => .bucket hfind ?_
    simp only [Memory.serve, hm.bucket?_of_mem hfound]
    exact hm.losesBucket hfound
  | object segment name =>
    refine g.resolveBucket_then hm segment fun found hfind hfound => ?_
    refine Looks.bind (g.findObject_looks hm hfound name _) ?_
    rintro _ rfl
    cases hnamed : found.named? name with
    | none => exact .throw _
    | some o =>
      have ho := StoredBucket.named?_eq_some hnamed
      refine AllOrNothing.call fun host _ _ => .object hfind hnamed ?_
      simp only [Memory.serve, objectEntry, ObjectEntry.ofMeta, hm.object?_of_mem hfound ho]
      exact hm.losesObject hfound ho

theorem perform_effect (hm : m.Apart) (request : Request) :
    AllOrNothing m (g.perform request) (g.Effect m request) := by
  have hlooks : ∀ {p : FsProgram Response}, request.method.isMutating = false →
      Looks m p (fun response => ∀ writer, response ≠ .writer writer) →
      AllOrNothing m p (g.Effect m request) := by
    intro p hmethod hp
    refine AllOrNothing.imp hp ?_
    rintro response _ ⟨rfl, hnever⟩
    refine ⟨?_, fun writer hwriter => absurd hwriter (hnever writer)⟩
    cases request <;> first | rfl | cases hmethod
  cases request with
  | list path => exact hlooks rfl (Looks.map ((g.list_looks hm path).imp fun _ _ _ h => nomatch h))
  | stat path => exact hlooks rfl (Looks.map ((g.stat_looks hm path).imp fun _ _ _ h => nomatch h))
  | get path =>
    exact hlooks rfl (Looks.map ((g.openReader_looks hm path).imp fun _ _ _ h => nomatch h))
  | setstat path => exact hlooks rfl (Looks.pure fun _ h => nomatch h)
  | put path | openFile path =>
    refine AllOrNothing.map (AllOrNothing.imp (g.openWriter_looks hm path) ?_)
    rintro writer _ ⟨rfl, hopens⟩
    refine ⟨rfl, ?_⟩
    rintro _ ⟨⟩
    exact hopens
  | mkdir path =>
    refine AllOrNothing.map ((g.makeBucket_makes hm path).imp fun _ left hmakes => ⟨hmakes, ?_⟩)
    rintro writer ⟨⟩
  | remove path | rmdir path =>
    refine AllOrNothing.map ((g.remove_removes hm path).imp fun _ left hremoves => ⟨hremoves, ?_⟩)
    rintro writer ⟨⟩
  | _ => exact .throw _

/-- However its calls go, a request leaves the store as it was when it fails, and when it
succeeds it has done what it is there for. -/
theorem dispatch_effect (hm : m.Apart) (request : Request) :
    AllOrNothing m (g.dispatch request) (g.Effect m request) := by
  unfold dispatch
  split
  · exact .throw _
  · exact g.perform_effect hm request

end Gateway

-- ---------------------------------------------------------------------------
-- Closing
-- ---------------------------------------------------------------------------

/-- Closing a writer puts one object behind all others of its bucket: what was staged, as
the object `id`. -/
structure Writer.Stores (writer : Writer) (g : Gateway) (m : Store) (id : ObjectId)
    (left : Store) : Prop where
  /-- What was staged has no gap at its end. -/
  staged : writer.staging.content.length = writer.length
  gains : ∃ found, m.bucket? writer.bucket = some found ∧
    m.GainsObject found (.ofHeader id (writer.header g) writer.staging.content) left

theorem Writer.close_stores {m : Store} (hm : m.Apart) (g : Gateway) (writer : Writer) :
    FsProgram.AllOrNothing m (writer.close g) (writer.Stores g m) := by
  obtain hshort | hstaged := Nat.lt_or_eq_of_le writer.staging.length_content_le
  · -- The upload breaks off, so it is not carried out.
    refine FsProgram.AllOrNothing.call fun host id hid => ?_
    have hnever := (Memory.serve_incomplete ⟨host, m⟩
      (c := .putObject (writer.header g) (writer.staging.upload g.maxChunk))
      (Staging.upload_incomplete hshort _)).1
    exact absurd hid (hnever id)
  · rw [Writer.close_eq hstaged]
    refine FsProgram.AllOrNothing.call fun host id hid => ⟨hstaged, ?_⟩
    cases hbucket : m.bucket? writer.bucket with
    | none =>
      rw [Memory.serve_putObject_refused (w := ⟨host, m⟩) (writer.header g) hbucket] at hid
      cases hid
    | some found =>
      obtain ⟨hfound, hplace⟩ := Memory.Store.bucket?_eq_some hbucket
      obtain ⟨_, hserve⟩ := Memory.serve_putObject (w := ⟨host, m⟩) (writer.header g)
        (Option.isSome_of_eq_some hbucket) (writer.chunks g)
      rw [hserve] at hid ⊢
      cases hid
      have hchunks : (writer.chunks g).flatten = writer.staging.content :=
        Bytes.flatten_pieces _ _
      rw [hchunks]
      exact ⟨found, rfl, hm.gainsObject hfound hplace.symm⟩

-- ---------------------------------------------------------------------------
-- On either backend
-- ---------------------------------------------------------------------------

open Config (BackendKind)

/-- On either backend, in every state in which identifiers tell buckets and objects apart, and
whatever is imposed on the calls of a request or of a close: when it fails, what is stored is
just what was stored before. When it succeeds, the request has done what it is there for and
nothing else, and the close has stored one object. -/
theorem Gateway.all_or_nothing {k : BackendKind} {w : World k.Store} {m : Store}
    (h : k.Stores w m) (hm : m.Apart) (g : Gateway) (ctx : Context) (d : Disturbance) :
    (∀ request answer left, ctx.runUnder d k.backend (g.dispatch request).run w = (answer, left) →
      left.host.ids.Distinct →
      (∀ cause, answer = .error cause → k.Stores left m) ∧
      ∀ response, answer = .ok response → ∃ m', k.Stores left m' ∧ g.Effect m request response m') ∧
    ∀ (writer : Writer) answer left, ctx.runUnder d k.backend (writer.close g).run w = (answer, left) →
      left.host.ids.Distinct →
      (∀ cause, answer = .error cause → k.Stores left m) ∧
      ∀ id, answer = .ok id → ∃ m', k.Stores left m' ∧ writer.Stores g m id m' := by
  constructor
  · intro request answer left hrun hd
    have hends := (g.dispatch_effect hm request).runUnder k.atomic h ctx d (hrun ▸ hd)
    rwa [hrun] at hends
  · intro writer answer left hrun hd
    have hends := (writer.close_stores hm g).runUnder k.atomic h ctx d (hrun ▸ hd)
    rwa [hrun] at hends

def removeF : Request := .remove (.object "b" "f")

/-- The request, and its last call is refused. -/
def refusedRemoval : Except FsError Response × World Store :=
  Context.runUnder {} (fun n => if n = 4 then some .notFound else none) Memory.backend
    (Gateway.dispatch ⟨{}, 1, 0⟩ removeF).run Session.gapClosed.2.world

/-- The request, and nothing comes in between. -/
def doneRemoval : Except FsError Response × World Store :=
  Context.runUnder {} (fun _ => none) Memory.backend
    (Gateway.dispatch ⟨{}, 1, 0⟩ removeF).run Session.gapClosed.2.world

/-- Refused in its last call the removal changes nothing; otherwise it takes out the object. -/
theorem Gateway.all_or_nothing_removal :
    BackendKind.memory.Stores Session.gapClosed.2.world Session.gapClosed.2.world.store ∧
      Session.gapClosed.2.world.store.Apart ∧
      refusedRemoval.1 = .error (.notFound "/b/f") ∧
      BackendKind.memory.Stores refusedRemoval.2 Session.gapClosed.2.world.store ∧
      doneRemoval.1 = .ok .done ∧
      ∃ m', BackendKind.memory.Stores doneRemoval.2 m' ∧
        Gateway.Removes ⟨{}, 1, 0⟩ Session.gapClosed.2.world.store m' (.object "b" "f") := by
  have hstores : BackendKind.memory.Stores Session.gapClosed.2.world
      Session.gapClosed.2.world.store := ⟨⟨by decide +kernel, by decide +kernel⟩, rfl⟩
  have hm : Session.gapClosed.2.world.store.Apart := ⟨by decide +kernel, by decide +kernel⟩
  have hrefused : refusedRemoval.1 = .error (.notFound "/b/f") := by decide +kernel
  have hdone : doneRemoval.1 = .ok .done := by decide +kernel
  have hstart := ((Session.run_after Memory.backend {} ⟨Session.emptyWorld, []⟩
    Session.gapEvents).step (.close {} 0 0)).extends_start Memory.faithful
  have hrefusedIds : refusedRemoval.2.host.ids.Distinct :=
    IdSupply.distinct_of_counting ((Program.runUnder_extends Memory.atomic _ _ _ _).trans hstart)
      rfl (by decide +kernel)
  have hdoneIds : doneRemoval.2.host.ids.Distinct :=
    IdSupply.distinct_of_counting ((Program.runUnder_extends Memory.atomic _ _ _ _).trans hstart)
      rfl (by decide +kernel)
  obtain ⟨hfails, -⟩ := (Gateway.all_or_nothing (k := .memory) hstores hm ⟨{}, 1, 0⟩ {} _).1 removeF
    refusedRemoval.1 refusedRemoval.2 rfl hrefusedIds
  obtain ⟨-, hdoes⟩ := (Gateway.all_or_nothing (k := .memory) hstores hm ⟨{}, 1, 0⟩ {} _).1 removeF
    doneRemoval.1 doneRemoval.2 rfl hdoneIds
  obtain ⟨m', hheld, heffect⟩ := hdoes _ hdone
  exact ⟨hstores, hm, hrefused, hfails _ hrefused, hdone, m', hheld, heffect.leaves⟩

end ObjectGateway
