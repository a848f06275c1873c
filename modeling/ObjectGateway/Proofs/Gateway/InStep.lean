import ObjectGateway.Proofs.Backend.InStep
import ObjectGateway.Proofs.Gateway.Commands
import ObjectGateway.Proofs.Gateway.Listing
import ObjectGateway.Proofs.Gateway.Staging
import ObjectGateway.Proofs.Memory.Renaming
/-!
# Gateways in step

Requests that are the same but for identifiers are carried out in step: at every call only
identifiers that clients may ask for are named, and those that came out of the owner's own
listing or out of a search of one of the buckets.
-/
namespace ObjectGateway

open List (Forall₂)

-- ---------------------------------------------------------------------------
-- What gateways hand out
-- ---------------------------------------------------------------------------

namespace Renaming

structure BucketEntries (ρ : Renaming) (b b' : BucketEntry) : Prop where
  id : Option.Rel (fun id id' => (id, id') ∈ ρ.buckets) b.id b'.id
  name : b.name = b'.name
  created : b.created = b'.created

structure ObjectEntries (ρ : Renaming) (o o' : ObjectEntry) : Prop where
  bucket : (o.bucket, o'.bucket) ∈ ρ.buckets
  id : (o.id, o'.id) ∈ ρ.objects
  name : o.name = o'.name
  filePath : o.filePath = o'.filePath
  size : o.size = o'.size
  created : o.created = o'.created

inductive Entries (ρ : Renaming) : Entry → Entry → Prop
  | bucket {b b' : BucketEntry} (h : ρ.BucketEntries b b') : Entries ρ (.bucket b) (.bucket b')
  | object {o o' : ObjectEntry} (h : ρ.ObjectEntries o o') : Entries ρ (.object o) (.object o')

section

variable {ρ later : Renaming} (hsub : ρ.Sub later)

include hsub

theorem BucketEntries.mono {b b' : BucketEntry} (h : ρ.BucketEntries b b') :
    later.BucketEntries b b' :=
  { h with
    id := by
      obtain ⟨hid, -, -⟩ := h
      generalize b.id = found at hid ⊢
      generalize b'.id = found' at hid ⊢
      cases hid with
      | none => exact .none
      | some hid => exact .some (hsub.buckets hid) }

theorem ObjectEntries.mono {o o' : ObjectEntry} (h : ρ.ObjectEntries o o') :
    later.ObjectEntries o o' :=
  { h with bucket := hsub.buckets h.bucket, id := hsub.objects h.id }

theorem Entries.mono {e e' : Entry} (h : ρ.Entries e e') : later.Entries e e' := by
  cases h with
  | bucket h => exact .bucket (h.mono hsub)
  | object h => exact .object (h.mono hsub)

end

end Renaming

namespace Manner

variable {M : Manner} {ρ later : Renaming}

structure Readers (M : Manner) (ρ : Renaming) (r r' : Reader) : Prop where
  entry : ρ.ObjectEntries r.entry r'.entry
  path : M.texts ρ r.path r'.path

structure Writers (M : Manner) (ρ : Renaming) (w w' : Writer) : Prop where
  bucket : (w.bucket, w'.bucket) ∈ ρ.buckets
  name : w.name = w'.name
  path : M.names ρ w.path w'.path
  staging : w.staging = w'.staging

inductive Responses (M : Manner) (ρ : Renaming) : Response → Response → Prop
  | entries {items items' : List Entry} (h : Forall₂ ρ.Entries items items') :
      Responses M ρ (.entries items) (.entries items')
  | reader {r r' : Reader} (h : M.Readers ρ r r') : Responses M ρ (.reader r) (.reader r')
  | writer {w w' : Writer} (h : M.Writers ρ w w') : Responses M ρ (.writer w) (.writer w')
  | done : Responses M ρ .done .done

theorem Readers.mono (hsub : ρ.Sub later) {r r' : Reader} (h : M.Readers ρ r r') :
    M.Readers later r r' :=
  ⟨h.entry.mono hsub, M.texts_mono hsub h.path⟩

theorem Writers.mono (hsub : ρ.Sub later) {w w' : Writer} (h : M.Writers ρ w w') :
    M.Writers later w w' :=
  { h with bucket := hsub.buckets h.bucket, path := M.names_mono hsub h.path }

theorem Responses.mono (hsub : ρ.Sub later) {r r' : Response} (h : M.Responses ρ r r') :
    M.Responses later r r' := by
  cases h with
  | entries h => exact .entries (h.imp fun _ _ he => he.mono hsub)
  | reader h => exact .reader (h.mono hsub)
  | writer h => exact .writer (h.mono hsub)
  | done => exact .done

-- ---------------------------------------------------------------------------
-- What clients ask for
-- ---------------------------------------------------------------------------

/-- Bucket segments that read alike: the same name, or identifiers that may be asked for. -/
inductive BucketReads (M : Manner) (ρ : Renaming) : String → String → Prop
  | name {b : String} (h : (Id.parse? b : Option BucketId) = none) : BucketReads M ρ b b
  | id {b b' : String} {id id' : BucketId} (hread : Id.parse? b = some id)
      (hread' : Id.parse? b' = some id') (h : M.bucket ρ id id') : BucketReads M ρ b b'

/-- Bucket segments that are used side by side, in paths whose texts may be shown. -/
structure BucketSegments (M : Manner) (ρ : Renaming) (b b' : String) : Prop where
  reads : M.BucketReads ρ b b'
  text : M.texts ρ ("/" ++ b) ("/" ++ b')
  below : ∀ {o o'}, ρ.Texts o o' → M.texts ρ ("/" ++ b ++ "/" ++ o) ("/" ++ b' ++ "/" ++ o')
  named : ∀ o, M.names ρ ("/" ++ b ++ "/" ++ o) ("/" ++ b' ++ "/" ++ o)

/-- Object segments that are looked up side by side: the same name, or identifiers that may be
asked for. -/
inductive ObjectSegments (M : Manner) (ρ : Renaming) : String → String → Prop
  | name {o : String} (h : (Id.parse? o : Option ObjectId) = none) : ObjectSegments M ρ o o
  | id {o o' : String} {id id' : ObjectId} (hread : Id.parse? o = some id)
      (hread' : Id.parse? o' = some id') (htexts : ρ.Texts o o') (h : M.object ρ id id') :
      ObjectSegments M ρ o o'

theorem ObjectSegments.texts {o o' : String} (h : M.ObjectSegments ρ o o') : ρ.Texts o o' := by
  cases h with
  | name => exact .same _
  | id hread hread' htexts => exact htexts

end Manner

/-- Paths that are used side by side, with object segments that are related by `S`. -/
inductive FsPath.Beside (M : Manner) (ρ : Renaming) (S : String → String → Prop) :
    FsPath → FsPath → Prop
  | root : Beside M ρ S .root .root
  | bucket {b b' : String} (hb : M.BucketSegments ρ b b') : Beside M ρ S (.bucket b) (.bucket b')
  | object {b b' o o' : String} (hb : M.BucketSegments ρ b b') (ho : S o o') :
      Beside M ρ S (.object b o) (.object b' o')

theorem FsPath.Beside.texts {M : Manner} {ρ : Renaming} {S : String → String → Prop}
    {path path' : FsPath} (h : path.Beside M ρ S path') (hS : ∀ o o', S o o' → ρ.Texts o o') :
    M.texts ρ path.text path'.text := by
  cases h with
  | root => exact M.same ρ _
  | bucket hb => exact hb.text
  | object hb ho => exact hb.below (hS _ _ ho)

namespace Request

def withPath (path : FsPath) : Request → Request
  | list _ => list path
  | stat _ => stat path
  | readlink _ => readlink path
  | get _ => get path
  | put _ => put path
  | openFile _ => openFile path
  | mkdir _ => mkdir path
  | remove _ => remove path
  | rmdir _ => rmdir path
  | setstat _ => setstat path
  | rename _ destination => rename path destination
  | link target _ => link target path
  | symlink target _ => symlink target path

@[simp] theorem withPath_path (r : Request) : r.withPath r.path = r := by
  cases r <;> rfl

@[simp] theorem path_withPath (r : Request) (path : FsPath) : (r.withPath path).path = path := by
  cases r <;> rfl

@[simp] theorem withPath_method (r : Request) (path : FsPath) :
    (r.withPath path).method = r.method := by
  cases r <;> rfl

/-- Requests that are made side by side. Only the methods that look an object up read an object
segment as an identifier, and only the one that makes a bucket does not look for it. -/
inductive Beside (M : Manner) (ρ : Renaming) : Request → Request → Prop
  | lookup {r : Request} {path : FsPath} (h : r.method = .stat ∨ r.method = .get)
      (hpath : r.path.Beside M ρ (M.ObjectSegments ρ) path) : Beside M ρ r (r.withPath path)
  | make (path : FsPath) : Beside M ρ (.mkdir path) (.mkdir path)
  | other {r : Request} {path : FsPath} (hstat : r.method ≠ .stat) (hget : r.method ≠ .get)
      (hmake : r.method ≠ .mkdir) (hpath : r.path.Beside M ρ Eq path) :
      Beside M ρ r (r.withPath path)

end Request

-- ---------------------------------------------------------------------------
-- Looking
-- ---------------------------------------------------------------------------

namespace Gateway

open FsProgram (InStep FixedInStep)

variable {M : Manner} {g : Gateway} {opens : Option String → Prop} {ρ : Renaming}
  {path path' : String}

theorem fetchBucket_inStep {id id' : BucketId} (hid : M.bucket ρ id id')
    (hpath : M.texts ρ path path') :
    FixedInStep M g.settings.owner opens ρ ρ.BucketEntries (g.fetchBucket id path)
      (g.fetchBucket id' path') := by
  have hcall : FixedInStep M g.settings.owner opens ρ
      (fun info info' => ρ.BucketMetas info info' ∧ info.name = info'.name)
      (FsProgram.call path (.getBucket id)) (FsProgram.call path' (.getBucket id')) :=
    InStep.call (.getBucket hid) hpath (fun _ _ => rfl)
      fun _ _ hinfo hname => ⟨hinfo, Option.some.inj hname⟩
  refine hcall.bind rfl ?_
  rintro info info' ⟨hinfo, hname⟩
  exact .pure rfl ⟨.some hinfo.id, hname, congrArg (·.created g.now) hinfo.attributes⟩

theorem fetchObject_inStep {bucket bucket' : BucketId} (hbucket : (bucket, bucket') ∈ ρ.buckets)
    {id id' : ObjectId} (hid : M.object ρ id id') (hpath : M.texts ρ path path') :
    FixedInStep M g.settings.owner opens ρ ρ.ObjectEntries (g.fetchObject bucket id path)
      (g.fetchObject bucket' id' path') := by
  have hcall : FixedInStep M g.settings.owner opens ρ
      (fun info info' => ρ.ObjectMetas info info' ∧ info.name = info'.name)
      (FsProgram.call path (.headObject bucket id))
      (FsProgram.call path' (.headObject bucket' id')) :=
    InStep.call (.headObject hbucket hid) hpath (fun _ _ => rfl)
      fun _ _ hinfo hname => ⟨hinfo, Option.some.inj hname⟩
  refine hcall.bind rfl ?_
  rintro info info' ⟨hinfo, hname⟩
  exact .pure rfl ⟨hinfo.bucket, hinfo.id, hname,
    congrArg (·.get? Attributes.filePathKey) hinfo.attributes, hinfo.size,
    congrArg (·.created g.now) hinfo.attributes⟩

theorem listBuckets_inStep :
    FixedInStep M g.settings.owner opens ρ (Forall₂ ρ.BucketEntries) g.listBuckets
      g.listBuckets := by
  have hcall : FixedInStep M g.settings.owner opens ρ
      (Forall₂ fun id id' => (id, id') ∈ ρ.buckets)
      (FsProgram.call "/" (.listBuckets g.settings.owner))
      (FsProgram.call "/" (.listBuckets g.settings.owner)) :=
    InStep.call .listBuckets (M.same ρ _) (fun _ _ => rfl) fun _ _ hids _ => hids
  refine hcall.bind rfl fun ids ids' hids => ?_
  refine (FixedInStep.mapM hids fun id id' hid => g.fetchBucket_inStep (M.bucket_of_mem hid)
    (M.texts_of_plain (.bucket hid (Id.parse?_text id) (Id.parse?_text id') "/"))).bind rfl ?_
  exact fun entries entries' h =>
    .pure rfl (Listing.distinctFrom_forall₂ (fun _ _ hb => hb.name) [] h)

theorem listObjects_inStep {bucket bucket' : BucketId} (hbucket : (bucket, bucket') ∈ ρ.buckets)
    (hpath : M.texts ρ path path')
    (hitems : ∀ {id id' : ObjectId}, (id, id') ∈ ρ.objects →
      M.texts ρ (path ++ "/" ++ id.text) (path' ++ "/" ++ id'.text)) :
    FixedInStep M g.settings.owner opens ρ (Forall₂ ρ.ObjectEntries) (g.listObjects bucket path)
      (g.listObjects bucket' path') := by
  have hcall : FixedInStep M g.settings.owner opens ρ
      (Forall₂ fun id id' => (id, id') ∈ ρ.objects)
      (FsProgram.call path (.searchObjects bucket [.root]))
      (FsProgram.call path' (.searchObjects bucket' [.root])) :=
    InStep.call (.searchObjects hbucket (M.search_of_root List.mem_cons_self)) hpath
      (fun _ _ => rfl) fun _ _ hids _ => hids
  refine hcall.bind rfl fun ids ids' hids => ?_
  refine (FixedInStep.mapM hids fun id id' hid => g.fetchObject_inStep hbucket
    (M.object_of_mem hid) (hitems hid)).bind rfl ?_
  exact fun entries entries' h =>
    .pure rfl (Listing.distinctFrom_forall₂ (fun _ _ ho => ho.name) [] h)

/-- A bucket is found by its name among those of the owner, or asked for by its identifier. -/
theorem resolveBucket_inStep {b b' : String} (h : M.BucketSegments ρ b b') :
    FixedInStep M g.settings.owner opens ρ ρ.BucketEntries (g.resolveBucket b)
      (g.resolveBucket b') := by
  obtain ⟨hreads, htext, -, -⟩ := h
  unfold resolveBucket
  cases hreads with
  | id hread hread' hid =>
    rw [hread, hread']
    exact g.fetchBucket_inStep hid htext
  | name hread =>
    rw [hread]
    refine g.listBuckets_inStep.bind rfl fun buckets buckets' h => ?_
    have hfind := Memory.find?_forall₂ (p := fun bucket : BucketEntry => bucket.name == b)
      (q := fun bucket : BucketEntry => bucket.name == b) (fun _ _ hb => by rw [hb.name]) h
    generalize buckets.find? (fun bucket => bucket.name == b) = found at hfind ⊢
    generalize buckets'.find? (fun bucket => bucket.name == b) = found' at hfind ⊢
    cases hfind with
    | none => exact .throw rfl ⟨htext, rfl⟩
    | some hb => exact .pure rfl hb

variable {bucket bucket' : BucketEntry}

theorem findObject_inStep (hbucket : ρ.BucketEntries bucket bucket') (name : String)
    (hpath : M.texts ρ path path') :
    FixedInStep M g.settings.owner opens ρ (Option.Rel ρ.ObjectEntries)
      (g.findObject bucket name path) (g.findObject bucket' name path') := by
  have hid := hbucket.id
  unfold findObject
  generalize bucket.id = found at hid ⊢
  generalize bucket'.id = found' at hid ⊢
  cases hid with
  | none => exact .pure rfl .none
  | @some id id' hid =>
    have hcall : FixedInStep M g.settings.owner opens ρ
        (Forall₂ fun id id' => (id, id') ∈ ρ.objects)
        (FsProgram.call path
          (.searchObjects id [.root, .attribute Attributes.fileNameKey name]))
        (FsProgram.call path'
          (.searchObjects id' [.root, .attribute Attributes.fileNameKey name])) :=
      InStep.call (.searchObjects hid (M.search_of_root List.mem_cons_self)) hpath
        (fun _ _ => rfl) fun _ _ hids _ => hids
    refine hcall.bind rfl fun ids ids' hids => ?_
    cases hids with
    | nil => exact .pure rfl .none
    | cons hfirst _ =>
      exact (g.fetchObject_inStep hid (M.object_of_mem hfirst) hpath).map rfl fun _ _ ho => .some ho

theorem resolveObject_inStep (hbucket : ρ.BucketEntries bucket bucket') {o o' : String}
    (ho : M.ObjectSegments ρ o o') (hpath : M.texts ρ path path') :
    FixedInStep M g.settings.owner opens ρ ρ.ObjectEntries (g.resolveObject bucket o path)
      (g.resolveObject bucket' o' path') := by
  have hfound : FixedInStep M g.settings.owner opens ρ _ _ _ := g.findObject_inStep hbucket o hpath
  have hid := hbucket.id
  unfold resolveObject
  generalize bucket.id = found at hid ⊢
  generalize bucket'.id = found' at hid ⊢
  cases hid with
  | none => exact .throw rfl ⟨hpath, rfl⟩
  | some hbucket =>
    cases ho with
    | id hread hread' htexts hid =>
      rw [hread, hread']
      exact g.fetchObject_inStep hbucket hid hpath
    | name hread =>
      rw [hread]
      refine hfound.bind rfl fun entry entry' hentry => ?_
      cases hentry with
      | none => exact .throw rfl ⟨hpath, rfl⟩
      | some hentry => exact .pure rfl hentry

section

variable {path path' : FsPath}

theorem stat_inStep (h : path.Beside M ρ (M.ObjectSegments ρ) path') :
    FixedInStep M g.settings.owner opens ρ ρ.Entries (g.stat path) (g.stat path') := by
  have htexts := h.texts fun _ _ ho => ho.texts
  cases h with
  | root => exact .pure rfl (.bucket ⟨.none, rfl, rfl⟩)
  | bucket hb => exact (g.resolveBucket_inStep hb).map rfl fun _ _ h => .bucket h
  | object hb ho =>
    exact (g.resolveBucket_inStep hb).bind rfl fun _ _ hbucket =>
      (g.resolveObject_inStep hbucket ho htexts).map rfl fun _ _ h => .object h

theorem openReader_inStep (h : path.Beside M ρ (M.ObjectSegments ρ) path') :
    FixedInStep M g.settings.owner opens ρ (M.Readers ρ) (g.openReader path)
      (g.openReader path') := by
  have htexts := h.texts fun _ _ ho => ho.texts
  have hstat : FixedInStep M g.settings.owner opens ρ _ _ _ := g.stat_inStep h
  cases h with
  | object hb ho =>
    refine hstat.bind rfl fun entry entry' hentry => ?_
    cases hentry with
    | bucket => exact .throw rfl ⟨htexts, rfl⟩
    | object ho => exact .pure rfl ⟨ho, htexts⟩
  | _ => exact .throw rfl ⟨htexts, rfl⟩

theorem list_inStep (h : path.Beside M ρ Eq path') :
    FixedInStep M g.settings.owner opens ρ (Forall₂ ρ.Entries) (g.list path) (g.list path') := by
  have htexts := h.texts fun o _ ho => ho ▸ .same o
  cases h with
  | root =>
    refine g.listBuckets_inStep.map rfl fun _ _ h => ?_
    exact List.rel_map (fun _ _ hb => .bucket hb) h
  | bucket hb =>
    refine (g.resolveBucket_inStep hb).bind rfl fun bucket bucket' hbucket => ?_
    have hid := hbucket.id
    generalize bucket.id = found at hid ⊢
    generalize bucket'.id = found' at hid ⊢
    cases hid with
    | none => exact .throw rfl ⟨htexts, rfl⟩
    | some hid =>
      refine (g.listObjects_inStep hid htexts fun h => hb.below (.ofObject h)).map rfl
        fun _ _ h => ?_
      exact List.rel_map (fun _ _ ho => .object ho) h
  | object => exact .throw rfl ⟨htexts, rfl⟩

-- ---------------------------------------------------------------------------
-- Changing
-- ---------------------------------------------------------------------------

/-- How large the chunks of an upload may be does not matter before it is closed. -/
theorem openWriter_inStep (hopens : opens g.settings.stagingDir) (size : Nat)
    (h : path.Beside M ρ Eq path') :
    FixedInStep M g.settings.owner opens ρ (M.Writers ρ) (g.openWriter path)
      ({ g with maxChunk := size }.openWriter path') := by
  have htexts := h.texts fun o _ ho => ho ▸ .same o
  cases h with
  | @object b b' name name' hb ho =>
    subst ho
    refine (g.resolveBucket_inStep hb).bind rfl fun bucket bucket' hbucket => ?_
    have hfound : FixedInStep M g.settings.owner opens ρ _ _ _ :=
      g.findObject_inStep hbucket name htexts
    have hid := hbucket.id
    generalize bucket.id = found at hid ⊢
    generalize bucket'.id = found' at hid ⊢
    cases hid with
    | none => exact .throw rfl ⟨htexts, rfl⟩
    | some hid =>
      dsimp only
      split
      · refine hfound.bind rfl fun o o' ho => ?_
        cases ho with
        | none =>
          exact .openUnnamed hopens (.pure rfl ⟨hid, rfl, hb.named name, rfl⟩) fun cause =>
            .throw rfl ⟨htexts, rfl⟩
        | some ho => exact .throw_bind rfl ⟨htexts, rfl⟩
      · exact .openUnnamed hopens (.pure rfl ⟨hid, rfl, hb.named name, rfl⟩) fun cause =>
          .throw rfl ⟨htexts, rfl⟩
  | _ => exact .throw rfl ⟨htexts, rfl⟩

/-- A new bucket is all that is created. -/
theorem makeBucket_inStep (path : FsPath) :
    InStep M g.settings.owner opens (·.objects = ρ.objects) (fun _ _ _ => True) ρ
      (g.makeBucket path) (g.makeBucket path) := by
  cases path with
  | bucket name =>
    have hlearn : ∀ header header' r r',
        (ρ.learn (.putBucket header) (.putBucket header') r r').objects = ρ.objects := by
      intro header header' r r'
      rcases r with _ | _ | id <;> rcases r' with _ | _ | id' <;> rfl
    have hput : InStep M g.settings.owner opens (·.objects = ρ.objects) (fun _ _ _ => True) ρ
        (do
          let _ ← FsProgram.call (FsPath.bucket name).text <| .putBucket
            { owner := g.settings.owner
              policy := g.settings.policy
              acl := .restricted
              attributes := .named Attributes.nameKey name g.now })
        (do
          let _ ← FsProgram.call (FsPath.bucket name).text <| .putBucket
            { owner := g.settings.owner
              policy := g.settings.policy
              acl := .restricted
              attributes := .named Attributes.nameKey name g.now }) :=
      (InStep.call (Q := fun _ _ _ => True) (.putBucket _ _ _ _) (M.same ρ _) (hlearn _ _)
        fun _ _ _ _ => trivial).bind fun _ _ _ hK _ => .pure hK trivial
    unfold makeBucket
    dsimp only
    split
    · refine g.listBuckets_inStep.bind rfl fun buckets buckets' h => ?_
      have hany : (buckets.any fun b => b.name == name) = buckets'.any fun b => b.name == name := by
        induction h with
        | nil => rfl
        | cons hb _ ih => rw [List.any_cons, List.any_cons, hb.name, ih]
      rw [hany]
      split
      · exact .throw_bind rfl ⟨M.same ρ _, rfl⟩
      · exact hput
    · exact hput
  | _ => exact .throw rfl ⟨M.same ρ _, rfl⟩

theorem remove_inStep (h : path.Beside M ρ Eq path') :
    FixedInStep M g.settings.owner opens ρ (fun _ _ => True) (g.remove path) (g.remove path') := by
  have htexts := h.texts fun o _ ho => ho ▸ .same o
  cases h with
  | root => exact .throw rfl ⟨htexts, rfl⟩
  | bucket hb =>
    refine (g.resolveBucket_inStep hb).bind rfl fun bucket bucket' hbucket => ?_
    have hid := hbucket.id
    generalize bucket.id = found at hid ⊢
    generalize bucket'.id = found' at hid ⊢
    cases hid with
    | none => exact .throw rfl ⟨htexts, rfl⟩
    | some hid =>
      exact InStep.call (.deleteBucket hid) htexts (fun _ _ => rfl) fun _ _ _ _ => trivial
  | @object b b' name name' hb ho =>
    subst ho
    refine (g.resolveBucket_inStep hb).bind rfl fun bucket bucket' hbucket => ?_
    have hfound : FixedInStep M g.settings.owner opens ρ _ _ _ :=
      g.findObject_inStep hbucket name htexts
    have hid := hbucket.id
    generalize bucket.id = found at hid ⊢
    generalize bucket'.id = found' at hid ⊢
    cases hid with
    | none => exact .throw rfl ⟨htexts, rfl⟩
    | some hid =>
      refine hfound.bind rfl fun o o' ho => ?_
      cases ho with
      | none => exact .throw rfl ⟨htexts, rfl⟩
      | some ho =>
        exact InStep.call (.deleteObject hid ho.id) htexts (fun _ _ => rfl)
          fun _ _ _ _ => trivial

end

-- ---------------------------------------------------------------------------
-- Requests
-- ---------------------------------------------------------------------------

/-- Requests that are made side by side are carried out in step, and no object is created. -/
theorem dispatch_inStep {r r' : Request} (h : r.Beside M ρ r')
    (hopens : r.method = .put ∨ r.method = .openFile → opens g.settings.stagingDir) (size : Nat) :
    InStep M g.settings.owner opens (·.objects = ρ.objects) M.Responses ρ (g.dispatch r)
      ({ g with maxChunk := size }.dispatch r') := by
  cases h with
  | lookup hmethod hpath =>
    cases r with
    | stat path => exact (g.stat_inStep hpath).map rfl fun _ _ he => .entries (.cons he .nil)
    | get path => exact (g.openReader_inStep hpath).map rfl fun _ _ hr => .reader hr
    | _ => exact absurd hmethod (by simp [Request.method])
  | make path =>
    unfold dispatch
    split
    · exact .throw rfl ⟨M.same ρ _, rfl⟩
    · exact (g.makeBucket_inStep path).map fun _ _ _ _ _ => .done
  | @other _ path hstat hget hmake hpath =>
    have htexts := hpath.texts fun o _ ho => ho ▸ .same o
    unfold dispatch
    rw [r.withPath_method, r.path_withPath]
    split
    · exact .throw rfl ⟨htexts, rfl⟩
    · cases r with
      | list => exact (g.list_inStep hpath).map rfl fun _ _ he => .entries he
      | stat => exact absurd rfl hstat
      | get => exact absurd rfl hget
      | mkdir => exact absurd rfl hmake
      | put =>
        exact (g.openWriter_inStep (hopens (.inl rfl)) size hpath).map rfl fun _ _ hw => .writer hw
      | openFile =>
        exact (g.openWriter_inStep (hopens (.inr rfl)) size hpath).map rfl fun _ _ hw => .writer hw
      | remove | rmdir => exact (g.remove_inStep hpath).map rfl fun _ _ _ => .done
      | setstat => exact .pure rfl .done
      | _ => exact .throw rfl ⟨htexts, rfl⟩

end Gateway

-- ---------------------------------------------------------------------------
-- Readers and writers
-- ---------------------------------------------------------------------------

open FsProgram (InStep FixedInStep)

variable {M : Manner} {owner : OwnerId} {opens : Option String → Prop} {ρ : Renaming}

/-- A read is answered with the same bytes. -/
theorem Reader.fetch_inStep {r r' : Reader} (h : M.Readers ρ r r') (wanted : Nat) (offset : Int) :
    FixedInStep M owner opens ρ Eq (r.fetch wanted offset) (r'.fetch wanted offset) := by
  cases offset with
  | negSucc offset => exact .throw rfl ⟨h.path, rfl⟩
  | ofNat offset =>
    have hsize := h.entry.size
    unfold Reader.fetch
    generalize r.entry.size = size at hsize ⊢
    generalize r'.entry.size = size' at hsize ⊢
    subst hsize
    dsimp only
    split
    · exact .pure rfl rfl
    split
    · exact .pure rfl rfl
    have hcall : FixedInStep M owner opens ρ Eq
        (FsProgram.call r.path
          (.getRange r.entry.bucket r.entry.id offset (min wanted (size - offset))))
        (FsProgram.call r'.path
          (.getRange r'.entry.bucket r'.entry.id offset (min wanted (size - offset)))) :=
      InStep.call (.getRange h.entry.bucket h.entry.id _ _) h.path (fun _ _ => rfl)
        fun _ _ hdata _ => hdata
    refine hcall.bind rfl ?_
    rintro data _ rfl
    exact .pure rfl rfl

theorem Reader.readAt_inStep {r r' : Reader} (h : M.Readers ρ r r') (buffer : Bytes)
    (offset : Int) :
    FixedInStep M owner opens ρ Eq (r.readAt buffer offset) (r'.readAt buffer offset) := by
  rw [r.readAt_eq, r'.readAt_eq]
  refine (Reader.fetch_inStep h buffer.length offset).bind rfl ?_
  rintro data _ rfl
  exact .pure rfl rfl

/-- The same is uploaded in chunks of any size. -/
theorem Staging.alike_upload (s : Staging) (size size' : Nat) :
    (s.upload size).Alike (s.upload size') := by
  obtain hshort | hwhole := Nat.lt_or_eq_of_le s.length_content_le
  · exact .broken (drain_upload_short hshort size) (drain_upload_short hshort size')
  · rw [upload_eq hwhole, upload_eq hwhole]
    exact .complete (PayloadStream.drain_ofChunks _) (PayloadStream.drain_ofChunks _)
      ((Bytes.flatten_pieces _ _).trans (Bytes.flatten_pieces _ _).symm)

/-- What is created when a writer is closed on either side. -/
def Renaming.created : Except FsError ObjectId → Except FsError ObjectId →
    List (ObjectId × ObjectId)
  | .ok id, .ok id' => [(id, id')]
  | _, _ => []

/-- Writers are closed alike, and their objects become partners. -/
theorem Writer.close_inStep {w w' : Writer} (h : M.Writers ρ w w') (g : Gateway) (size : Nat) :
    Program.InStep M g.settings.owner opens
      (fun later r r' => later.objects = ρ.objects ++ Renaming.created r r' ∧
        M.Ends later (fun id id' => (id, id') ∈ later.objects) r r')
      ρ (w.close g).run (w'.close { g with maxChunk := size }).run := by
  obtain ⟨hbucket, hname, hpath, hstaging⟩ := h
  unfold Writer.close
  rw [← hname, ← hstaging]
  refine ⟨.putObject hbucket (w.staging.alike_upload g.maxChunk size) w.name g.now, ?_⟩
  rintro r r' ⟨hanswers, -⟩
  cases hanswers with
  | ok hid => exact ⟨rfl, .ok hid⟩
  | error cause =>
    exact ⟨(List.append_nil _).symm, .error (.ofBackend (M.texts_of_names hpath) _ cause)⟩

end ObjectGateway
