import Mathlib.Data.List.Find
import ObjectGateway.Proofs.Backend.Looking
import ObjectGateway.Proofs.Gateway.Contents
/-!
# What requests that look find out

On a store that gateways have filled, a path names the bucket and the object that its
segments are resolved to, and a listing shows the first bucket or object of each name.
-/
namespace ObjectGateway

/-- A store that a gateway can work on. -/
structure Memory.Store.InOrder (ids : IdSupply) (m : Memory.Store) : Prop where
  healthy : m.Healthy
  sound : m.Sound ids
  labelled : m.Labelled

theorem Faithful.inOrder {σ : Type} {b : Backend (World σ)} {holds : World σ → Memory.Store → Prop}
    (hb : Faithful b holds) {w : World σ} {m : Memory.Store} (h : holds w m)
    (hlabelled : m.Labelled) : m.InOrder w.host.ids :=
  ⟨hb.healthy h, hb.sound h, hlabelled⟩

namespace Gateway

def bucketEntry (g : Gateway) (b : Memory.StoredBucket) : BucketEntry := .ofMeta g.now b.info

def objectEntry (g : Gateway) (o : Memory.StoredObject) : ObjectEntry := .ofMeta g.now o.info

def bucketsIn (g : Gateway) (m : Memory.Store) : List BucketEntry :=
  (Listing.distinct Memory.StoredBucket.name
    (m.buckets.filter fun b => b.info.owner == g.settings.owner)).map g.bucketEntry

def objectsIn (g : Gateway) (b : Memory.StoredBucket) : List ObjectEntry :=
  (Listing.distinct Memory.StoredObject.name b.roots).map g.objectEntry

open FsProgram

variable {σ : Type} {b : Backend (World σ)} {holds : World σ → Memory.Store → Prop}
  {m : Memory.Store} {ids : IdSupply} {found : Memory.StoredBucket} (g : Gateway)

/-! ## Buckets -/

theorem fetchBucket_reads (hb : Faithful b holds) (m : Memory.Store) (id : BucketId)
    (path : String) : Reads b holds m (g.fetchBucket id path)
      (FsError.orNotFound path ((m.bucket? id).map g.bucketEntry)) := by
  have hfetch := (reads_getBucket (m := m) hb path id).bind hb
    (s := fun info => .ok (BucketEntry.ofMeta g.now info)) fun info _ => .pure _
  cases hfind : m.bucket? id with
  | none => rwa [hfind] at hfetch
  | some found => rwa [hfind] at hfetch

theorem listBuckets_reads (hb : Faithful b holds) (hm : m.Apart) :
    Reads b holds m g.listBuckets (.ok (g.bucketsIn m)) := by
  refine (reads_listBuckets hb "/" g.settings.owner).bind_ok hb ?_
  rw [List.mapM_map]
  have hentries := Reads.mapM hb (m := m) (g := g.bucketEntry)
    (f := fun b => g.fetchBucket b.info.id ("/" ++ b.info.id.text))
    (m.buckets.filter fun b => b.info.owner == g.settings.owner) fun b hmem => by
      have hfetch := g.fetchBucket_reads hb m b.info.id ("/" ++ b.info.id.text)
      rwa [hm.bucket?_of_mem (List.mem_of_mem_filter hmem)] at hfetch
  refine hentries.bind_ok hb ?_
  rw [Listing.distinct_map]
  exact .pure _

theorem resolveBucket_reads (hb : Faithful b holds) (hm : m.Apart) (segment : String) :
    Reads b holds m (g.resolveBucket segment)
      (FsError.orNotFound ("/" ++ segment)
        ((m.resolve g.settings.owner segment).map g.bucketEntry)) := by
  unfold resolveBucket Memory.Store.resolve
  cases (Id.parse? segment : Option BucketId) with
  | some id => exact g.fetchBucket_reads hb m id _
  | none =>
    refine (g.listBuckets_reads hb hm).bind_ok hb ?_
    have hfind : (g.bucketsIn m).find? (fun b => b.name == segment) =
        ((m.buckets.filter fun b => b.info.owner == g.settings.owner).find? fun b =>
          b.name == segment).map g.bucketEntry := by
      rw [bucketsIn, List.find?_map]
      exact congrArg (Option.map g.bucketEntry) (Listing.find?_distinct _ _ segment)
    rw [hfind]
    cases (m.buckets.filter fun b => b.info.owner == g.settings.owner).find? fun b =>
        b.name == segment with
    | some found => exact .pure _
    | none => exact .throw _

/-! ## Objects -/

theorem fetchObject_reads (hb : Faithful b holds) (hhealthy : m.Healthy) (bucket : BucketId)
    (id : ObjectId) (path : String) : Reads b holds m (g.fetchObject bucket id path)
      (FsError.orNotFound path ((m.object? bucket id).map g.objectEntry)) := by
  have hfetch := (reads_headObject (m := m) hb path hhealthy bucket id).bind hb
    (s := fun info => .ok (ObjectEntry.ofMeta g.now info)) fun info _ => .pure _
  cases hfind : m.object? bucket id with
  | none => rwa [hfind] at hfetch
  | some found => rwa [hfind] at hfetch

/-- An object of a bucket is fetched. -/
theorem fetchObject_reads_of_mem (hb : Faithful b holds) (hhealthy : m.Healthy) (hm : m.Apart)
    (hfound : found ∈ m.buckets) {o : Memory.StoredObject} (ho : o ∈ found.objects)
    (path : String) :
    Reads b holds m (g.fetchObject found.info.id o.info.id path) (.ok (g.objectEntry o)) := by
  have hfetch := g.fetchObject_reads hb hhealthy found.info.id o.info.id path
  rwa [hm.object?_of_mem hfound ho] at hfetch

theorem listObjects_reads (hb : Faithful b holds) (hm : m.InOrder ids)
    (hfound : found ∈ m.buckets) (path : String) :
    Reads b holds m (g.listObjects found.info.id path) (.ok (g.objectsIn found)) := by
  have hroots : found.objects.filter (fun o => [SearchFilter.root].all o.satisfies) =
      found.roots := by
    simp [Memory.StoredBucket.roots, Memory.StoredObject.satisfies]
  have hsearch := reads_searchObjects (m := m) hb path found.info.id [.root]
  rw [hm.sound.bucket?_of_mem hfound] at hsearch
  refine hsearch.bind_ok hb ?_
  rw [List.mapM_map, hroots]
  have hentries := Reads.mapM hb (m := m) (g := g.objectEntry)
    (f := fun o => g.fetchObject found.info.id o.info.id (path ++ "/" ++ o.info.id.text))
    found.roots fun o ho =>
      g.fetchObject_reads_of_mem hb hm.healthy hm.sound.apart hfound
        (List.mem_of_mem_filter ho) _
  refine hentries.bind_ok hb ?_
  rw [Listing.distinct_map]
  exact .pure _

/-- A search for a name finds the first object that was stored with it, whether it goes by
that name or not. -/
theorem findObject_reads_bearing (hb : Faithful b holds) (hhealthy : m.Healthy) (hm : m.Apart)
    (entry : BucketEntry) {id : BucketId} (hentry : entry.id = some id) (name path : String) :
    Reads b holds m (g.findObject entry name path) (FsError.orNotFound path
      ((m.bucket? id).map fun found =>
        (found.roots.find? fun o => o.bears name).map g.objectEntry)) := by
  have hsearch := reads_searchObjects (m := m) hb path id
    [.root, .attribute Attributes.fileNameKey name]
  unfold findObject
  rw [hentry]
  cases hfind : m.bucket? id with
  | none =>
    rw [hfind] at hsearch
    exact hsearch.bind_error hb
  | some found =>
    obtain ⟨hfound, rfl⟩ := Memory.Store.bucket?_eq_some hfind
    have hnamed : (found.objects.filter fun o =>
        [SearchFilter.root, .attribute Attributes.fileNameKey name].all o.satisfies) =
          found.roots.filter fun o => o.bears name := by
      rw [Memory.StoredBucket.roots, List.filter_filter]
      refine List.filter_congr fun o _ => ?_
      rw [Bool.and_comm]
      simp [Memory.StoredObject.bears, Memory.StoredObject.satisfies]
    simp only [hfind, Option.map, hnamed] at hsearch
    refine hsearch.bind_ok hb ?_
    -- The first of the objects found is fetched, and none of the others.
    simp only [Option.map, ← List.head?_filter]
    cases hfirst : found.roots.filter fun o => o.bears name with
    | nil => exact .pure none
    | cons o rest =>
      have ho : o ∈ found.objects := by
        have hmem : o ∈ found.roots.filter fun o => o.bears name :=
          hfirst ▸ List.mem_cons_self
        exact List.mem_of_mem_filter (List.mem_of_mem_filter hmem)
      exact (g.fetchObject_reads_of_mem hb hhealthy hm hfound ho path).map hb some

/-- A name that objects go by is the one they were stored with, so it finds the first object
of that name. -/
theorem findObject_reads (hb : Faithful b holds) (hm : m.InOrder ids)
    (hfound : found ∈ m.buckets) (name path : String) :
    Reads b holds m (g.findObject (g.bucketEntry found) name path)
      (.ok ((found.roots.find? fun o => o.name == name).map g.objectEntry)) := by
  have hfind := g.findObject_reads_bearing hb hm.healthy hm.sound.apart
    (g.bucketEntry found) rfl name path
  have hbears : ∀ o ∈ found.roots, o.bears name = (o.name == name) := fun o ho =>
    hm.labelled.bears_eq hfound (List.mem_of_mem_filter ho) name
  rwa [hm.sound.bucket?_of_mem hfound, Option.map_some, List.find?_congr hbears] at hfind

theorem resolveObject_reads (hb : Faithful b holds) (hm : m.InOrder ids)
    (hfound : found ∈ m.buckets) (segment path : String) :
    Reads b holds m (g.resolveObject (g.bucketEntry found) segment path)
      (FsError.orNotFound path ((found.resolve segment).map g.objectEntry)) := by
  unfold resolveObject Memory.StoredBucket.resolve
  cases (Id.parse? segment : Option ObjectId) with
  | some id =>
    have hfetch := g.fetchObject_reads hb hm.healthy found.info.id id path
    rwa [Memory.Store.object?_of_bucket? (hm.sound.bucket?_of_mem hfound)] at hfetch
  | none =>
    refine (g.findObject_reads hb hm hfound segment path).bind_ok hb ?_
    cases found.roots.find? fun o => o.name == segment with
    | some o => exact .pure _
    | none => exact .throw _

/-! ## Requests -/

/-- What a bucket segment leads to, and what is made of the bucket there. -/
def atBucket {α : Type} (g : Gateway) (m : Memory.Store) (segment : String)
    (k : Memory.StoredBucket → Except FsError α) : Except FsError α :=
  match m.resolve g.settings.owner segment with
  | some found => k found
  | none => .error (.notFound ("/" ++ segment))

theorem atBucket_reads {α : Type} (hb : Faithful b holds) (hm : m.Apart) (segment : String)
    {k : BucketEntry → FsProgram α} {s : Memory.StoredBucket → Except FsError α}
    (hk : ∀ found ∈ m.buckets, Reads b holds m (k (g.bucketEntry found)) (s found)) :
    Reads b holds m (g.resolveBucket segment >>= k) (g.atBucket m segment s) := by
  have hresolve := g.resolveBucket_reads hb hm segment
  unfold atBucket
  cases hfind : m.resolve g.settings.owner segment with
  | none =>
    rw [hfind] at hresolve
    exact hresolve.bind_error hb
  | some found =>
    rw [hfind] at hresolve
    refine hresolve.bind_ok hb ?_
    exact hk found (Memory.Store.mem_of_resolve hfind)

theorem stat_object_reads (hb : Faithful b holds) (hm : m.InOrder ids) (segment name : String) :
    Reads b holds m (g.stat (.object segment name)) (g.atBucket m segment fun found =>
      (FsError.orNotFound (FsPath.object segment name).text
        ((found.resolve name).map g.objectEntry)).map Entry.object) :=
  g.atBucket_reads hb hm.sound.apart segment fun _ hfound =>
    (g.resolveObject_reads hb hm hfound name _).map hb Entry.object

theorem list_bucket_reads (hb : Faithful b holds) (hm : m.InOrder ids) (segment : String) :
    Reads b holds m (g.list (.bucket segment)) (g.atBucket m segment fun found =>
      .ok ((g.objectsIn found).map Entry.object)) :=
  g.atBucket_reads hb hm.sound.apart segment fun _ hfound =>
    (g.listObjects_reads hb hm hfound _).map hb (List.map Entry.object)

theorem list_root_reads (hb : Faithful b holds) (hm : m.InOrder ids) :
    Reads b holds m (g.list .root) (.ok ((g.bucketsIn m).map Entry.bucket)) :=
  (g.listBuckets_reads hb hm.sound.apart).map hb (List.map Entry.bucket)

theorem openReader_reads (hb : Faithful b holds) (hm : m.InOrder ids) (segment name : String) :
    Reads b holds m (g.openReader (.object segment name)) (g.atBucket m segment fun found =>
      (FsError.orNotFound (FsPath.object segment name).text (found.resolve name)).map fun o =>
        ⟨g.objectEntry o, (FsPath.object segment name).text⟩) := by
  have hstat := g.stat_object_reads hb hm segment name
  unfold atBucket at hstat ⊢
  cases hfind : m.resolve g.settings.owner segment with
  | none =>
    rw [hfind] at hstat
    exact hstat.bind_error hb
  | some found =>
    simp only [hfind] at hstat ⊢
    cases ho : found.resolve name with
    | none =>
      rw [ho] at hstat
      exact hstat.bind_error hb
    | some o =>
      rw [ho] at hstat
      refine hstat.bind_ok hb ?_
      exact .pure _

theorem stat_bucket_reads (hb : Faithful b holds) (hm : m.InOrder ids) (segment : String) :
    Reads b holds m (g.stat (.bucket segment)) ((FsError.orNotFound ("/" ++ segment)
      ((m.resolve g.settings.owner segment).map g.bucketEntry)).map Entry.bucket) :=
  (g.resolveBucket_reads hb hm.sound.apart segment).map hb Entry.bucket

/-- A request that only looks is carried out by every gateway. -/
theorem dispatch_eq {request : Request} (h : request.method.isMutating = false) :
    g.dispatch request = g.perform request := by
  simp [dispatch, h]

theorem dispatch_list_reads (hb : Faithful b holds) (hm : m.InOrder ids)
    (segment : String) :
    Reads b holds m (g.dispatch (.list (.bucket segment)))
      ((g.atBucket m segment fun found => .ok ((g.objectsIn found).map Entry.object)).map
        Response.entries) := by
  rw [g.dispatch_eq rfl]
  exact (g.list_bucket_reads hb hm segment).map hb Response.entries

theorem dispatch_list_root_reads (hb : Faithful b holds) (hm : m.InOrder ids) :
    Reads b holds m (g.dispatch (.list .root))
      (.ok (.entries ((g.bucketsIn m).map Entry.bucket))) := by
  rw [g.dispatch_eq rfl]
  exact (g.list_root_reads hb hm).map hb Response.entries

theorem dispatch_stat_bucket_reads (hb : Faithful b holds) (hm : m.InOrder ids)
    (segment : String) :
    Reads b holds m (g.dispatch (.stat (.bucket segment)))
      (((FsError.orNotFound ("/" ++ segment) ((m.resolve g.settings.owner segment).map
        g.bucketEntry)).map Entry.bucket).map fun entry => Response.entries [entry]) := by
  rw [g.dispatch_eq rfl]
  exact (g.stat_bucket_reads hb hm segment).map hb fun entry => Response.entries [entry]

/-! ## Opening a writer -/

/-- A writer that is handed out goes to the bucket which the segment is resolved to. -/
theorem openWriter_tells (hb : Faithful b holds) (hm : m.InOrder ids) (segment name : String) :
    Tells b holds m (g.openWriter (.object segment name)) fun writer =>
      ∃ found, m.resolve g.settings.owner segment = some found ∧
        writer = { bucket := found.info.id, name, path := (FsPath.object segment name).text } := by
  have hresolve : Tells b holds m (g.resolveBucket segment) fun entry =>
      ∃ found, m.resolve g.settings.owner segment = some found ∧ entry = g.bucketEntry found := by
    intro w ctx h hd
    obtain ⟨hheld, htold⟩ := (g.resolveBucket_reads hb hm.sound.apart segment).any h hd
    refine ⟨hheld, fun entry hentry => ?_⟩
    have hfound := htold entry hentry
    cases hfind : m.resolve g.settings.owner segment with
    | none => simp [hfind, FsError.orNotFound] at hfound
    | some found =>
      rw [hfind] at hfound
      exact ⟨found, rfl, (Except.ok.inj hfound).symm⟩
  refine hresolve.bind hb ?_
  rintro _ ⟨found, hfind, rfl⟩
  dsimp only [bucketEntry, BucketEntry.ofMeta]
  have hfound := Memory.Store.mem_of_resolve hfind
  -- A free name is asked for only when duplicates are refused.
  split
  · refine (g.findObject_reads hb hm hfound name _).any.bind hb fun taken _ => ?_
    split
    · exact .throw_bind hb _
    · exact .openUnnamed (.pure ⟨found, hfind, rfl⟩) fun _ => .throw _
  · exact .openUnnamed (.pure ⟨found, hfind, rfl⟩) fun _ => .throw _

theorem dispatch_put_tells (hb : Faithful b holds) (hm : m.InOrder ids) (segment name : String) :
    Tells b holds m (g.dispatch (.put (.object segment name))) fun response =>
      ∃ found, m.resolve g.settings.owner segment = some found ∧ response = .writer
        { bucket := found.info.id, name, path := (FsPath.object segment name).text } := by
  unfold dispatch
  split
  · exact .throw _
  · have hmap : g.perform (.put (.object segment name)) =
        g.openWriter (.object segment name) >>= fun w => Pure.pure (.writer w) :=
      map_eq_pure_bind _ _
    rw [hmap]
    refine (g.openWriter_tells hb hm segment name).bind hb ?_
    rintro _ ⟨found, hfind, rfl⟩
    exact .pure ⟨found, hfind, rfl⟩

end Gateway
end ObjectGateway
