import ObjectGateway.Gateway.Dispatch
import ObjectGateway.Proofs.Backend.Program
import ObjectGateway.Proofs.Durable.Payloads
import ObjectGateway.Proofs.Host.ByPath
import ObjectGateway.Proofs.Path
/-!
# Identifiers as addresses

The text of an identifier is a name of its own that reads as this identifier again. So a segment
of a path that is such a text leads straight to what it identifies. And the directories and files
that have their names from such texts are told apart, although the directories in between are
named by a digest, which different objects may share.
-/
namespace ObjectGateway

-- ---------------------------------------------------------------------------
-- Names
-- ---------------------------------------------------------------------------

/-- No digit is a dot. -/
theorem Hex.digitChar_ne_dot : ∀ d < 16, Nat.digitChar d ≠ '.' := by
  decide

theorem Hex.isName_ofNat {width : Nat} (hwidth : 0 < width) (n : Nat) :
    IsName (String.ofList (Hex.ofNat width n)) := by
  have hlength : (String.ofList (Hex.ofNat width n)).length = width := by simp
  have hdot : '.' ∉ (String.ofList (Hex.ofNat width n)).toList := by
    intro h
    obtain ⟨d, hd, hc⟩ := Hex.mem_ofNat (by simpa using h)
    exact digitChar_ne_dot d hd hc.symm
  constructor
  case ne_empty =>
    intro h
    rw [h] at hlength
    exact absurd hlength (Nat.ne_of_lt hwidth)
  case noSlash =>
    intro h
    obtain ⟨d, hd, hc⟩ := Hex.mem_ofNat (by simpa using h)
    exact (Id.digitChar_ne d hd).2 hc.symm
  all_goals
    intro h
    rw [h] at hdot
    exact hdot (by decide)

-- ---------------------------------------------------------------------------
-- Segments
-- ---------------------------------------------------------------------------

namespace FsProgram

variable {α β γ : Type} {first : FsProgram α} {p : FsProgram β}

/-- The operation begins with this part, and fails when it fails. -/
def StartsWith (first : FsProgram α) (p : FsProgram β) : Prop :=
  ∃ k, p = first >>= k

theorem StartsWith.bind (h : StartsWith first p) (k : β → FsProgram γ) :
    StartsWith first (p >>= k) := by
  obtain ⟨l, rfl⟩ := h
  exact ⟨_, bind_assoc first l k⟩

theorem StartsWith.map (h : StartsWith first p) (f : β → γ) : StartsWith first (f <$> p) := by
  rw [map_eq_pure_bind]
  exact h.bind _

end FsProgram

theorem FsPath.eq_of_bucket? {path : FsPath} {segment : String}
    (h : path.bucket? = some segment) :
    path = .bucket segment ∨ ∃ name, path = .object segment name := by
  cases path with
  | root => cases h
  | bucket b => exact .inl (congrArg _ (Option.some.inj h))
  | object b o => exact .inr ⟨o, congrArg (FsPath.object · o) (Option.some.inj h)⟩

/-- A path of identifiers is read from its text. -/
theorem FsPath.parse_ids (bucket : BucketId) (id : ObjectId) :
    parse ("/" ++ bucket.text) = .ok (.bucket bucket.text) ∧
      parse ("/" ++ bucket.text ++ "/" ++ id.text) = .ok (.object bucket.text id.text) := by
  have hsegment : ∀ {kind : IdKind} (id : Id kind), IsSegment id.text := fun id =>
    ⟨id.isName_text.ne_empty, id.isName_text.noSlash⟩
  exact ⟨parse_text (p := .bucket bucket.text) (hsegment bucket),
    parse_text (p := .object bucket.text id.text) ⟨hsegment bucket, hsegment id⟩⟩

namespace Gateway

open FsProgram (StartsWith)

variable (g : Gateway) (bucket : BucketId) (id : ObjectId)

theorem resolveBucket_text :
    g.resolveBucket bucket.text = g.fetchBucket bucket ("/" ++ bucket.text) := by
  rw [resolveBucket, Id.parse?_text]

/-- To describe or to read an object, its segment is resolved in the bucket found before. -/
theorem resolveObject_text {entry : BucketEntry} (h : entry.id = some bucket) (path : String) :
    g.resolveObject entry id.text path = g.fetchObject bucket id path := by
  rw [resolveObject, h, Id.parse?_text]

/-- An object that is named by its identifier, in a bucket that is named by its own, takes two
calls to describe. -/
theorem stat_ids : g.stat (.object bucket.text id.text) = do
    let found ← FsProgram.call ("/" ++ bucket.text) (.getBucket bucket)
    let object ← FsProgram.call (FsPath.object bucket.text id.text).text (.headObject found.id id)
    return .object (.ofMeta g.now object) := by
  simp only [stat, resolveBucket_text, fetchBucket, bind_assoc, pure_bind]
  refine congrArg (FsProgram.call _ (.getBucket bucket) >>= ·) (funext fun found => ?_)
  rw [resolveObject_text g found.id id rfl, fetchObject, map_eq_pure_bind, bind_assoc]
  simp only [pure_bind]

/-- To read it takes the same two. -/
theorem openReader_ids : g.openReader (.object bucket.text id.text) = do
    let found ← FsProgram.call ("/" ++ bucket.text) (.getBucket bucket)
    let object ← FsProgram.call (FsPath.object bucket.text id.text).text (.headObject found.id id)
    return ⟨.ofMeta g.now object, (FsPath.object bucket.text id.text).text⟩ := by
  rw [openReader, stat_ids, bind_assoc]
  simp only [bind_assoc, pure_bind, Entry.object?]

/-- The bucket is fetched that the text of its identifier names. -/
theorem resolveBucket_starts {α : Type} (k : BucketEntry → FsProgram α) :
    StartsWith (g.fetchBucket bucket ("/" ++ bucket.text)) (g.resolveBucket bucket.text >>= k) :=
  ⟨k, by rw [resolveBucket_text]⟩

theorem stat_starts {path : FsPath} (h : path.bucket? = some bucket.text) :
    StartsWith (g.fetchBucket bucket ("/" ++ bucket.text)) (g.stat path) := by
  obtain rfl | ⟨name, rfl⟩ := FsPath.eq_of_bucket? h
  · rw [stat, map_eq_pure_bind]
    exact g.resolveBucket_starts bucket _
  · exact g.resolveBucket_starts bucket _

theorem remove_starts {path : FsPath} (h : path.bucket? = some bucket.text) :
    StartsWith (g.fetchBucket bucket ("/" ++ bucket.text)) (g.remove path) := by
  obtain rfl | ⟨name, rfl⟩ := FsPath.eq_of_bucket? h <;> exact g.resolveBucket_starts bucket _

/-- Whatever is asked for at a path whose bucket is named by its identifier, unless it is a new
bucket of this name, either makes no call or begins with fetching the bucket. -/
theorem dispatch_starts (request : Request) (hpath : request.path.bucket? = some bucket.text)
    (hmake : request.method ≠ .mkdir) :
    (∃ r, (g.dispatch request).run = .done r) ∨
      StartsWith (g.fetchBucket bucket ("/" ++ bucket.text)) (g.dispatch request) := by
  unfold dispatch
  split
  · exact .inl ⟨_, rfl⟩
  · cases request with
    | list path =>
      obtain rfl | ⟨name, rfl⟩ := FsPath.eq_of_bucket? hpath
      · exact .inr ((g.resolveBucket_starts bucket _).map _)
      · exact .inl ⟨_, rfl⟩
    | stat path => exact .inr ((g.stat_starts bucket hpath).map _)
    | get path =>
      obtain rfl | ⟨name, rfl⟩ := FsPath.eq_of_bucket? hpath
      · exact .inl ⟨_, rfl⟩
      · exact .inr (((g.stat_starts bucket hpath).bind _).map _)
    | put path | openFile path =>
      obtain rfl | ⟨name, rfl⟩ := FsPath.eq_of_bucket? hpath
      · exact .inl ⟨_, rfl⟩
      · exact .inr ((g.resolveBucket_starts bucket _).map _)
    | remove path | rmdir path => exact .inr ((g.remove_starts bucket hpath).map _)
    | mkdir path => exact absurd rfl hmake
    | setstat path | readlink path | rename source destination | link target path
    | symlink target path => exact .inl ⟨_, rfl⟩

/-- Segments that are texts of identifiers lead this gateway straight to what they identify. -/
structure FetchesDirectly : Prop where
  findsBucket : g.resolveBucket bucket.text = g.fetchBucket bucket ("/" ++ bucket.text)
  findsObject : ∀ (entry : BucketEntry) (path : String), entry.id = some bucket →
    g.resolveObject entry id.text path = g.fetchObject bucket id path
  describes : g.stat (.object bucket.text id.text) = do
    let found ← FsProgram.call ("/" ++ bucket.text) (.getBucket bucket)
    let object ← FsProgram.call (FsPath.object bucket.text id.text).text (.headObject found.id id)
    return .object (.ofMeta g.now object)
  opens : g.openReader (.object bucket.text id.text) = do
    let found ← FsProgram.call ("/" ++ bucket.text) (.getBucket bucket)
    let object ← FsProgram.call (FsPath.object bucket.text id.text).text (.headObject found.id id)
    return ⟨.ofMeta g.now object, (FsPath.object bucket.text id.text).text⟩
  begins : ∀ request : Request, request.path.bucket? = some bucket.text → request.method ≠ .mkdir →
    (∃ r, (g.dispatch request).run = .done r) ∨
      StartsWith (g.fetchBucket bucket ("/" ++ bucket.text)) (g.dispatch request)

theorem fetchesDirectly : g.FetchesDirectly bucket id where
  findsBucket := g.resolveBucket_text bucket
  findsObject _ path h := g.resolveObject_text bucket id h path
  describes := g.stat_ids bucket id
  opens := g.openReader_ids bucket id
  begins := g.dispatch_starts bucket

end Gateway

-- ---------------------------------------------------------------------------
-- Places
-- ---------------------------------------------------------------------------

namespace Durable

variable {base l : Location} {bucket bucket' : BucketId} {id id' : ObjectId}

/-- The places that a store below `base` has for a bucket: its directory, and for every object
that it may hold the two directories which this is filed under, its payload, and the file that it
is uploaded to. -/
inductive PlaceOf (base : Location) (bucket : BucketId) : Location → Prop
  | root : PlaceOf base bucket (bucketRoot base bucket)
  | outer (id : ObjectId) : PlaceOf base bucket (shardDir base bucket id).dropLast
  | inner (id : ObjectId) : PlaceOf base bucket (shardDir base bucket id)
  | payload (id : ObjectId) : PlaceOf base bucket (payloadFile base bucket id)
  | upload (id : ObjectId) : PlaceOf base bucket (uploadFile base bucket id)

theorem isName_of_mem_shards {name : String} (h : name ∈ shards bucket id) : IsName name := by
  obtain ⟨byte, -, rfl⟩ := List.mem_map.mp h
  exact Hex.isName_ofNat (by decide) _

/-- Below the directory of its bucket, every place is reached by names. -/
theorem PlaceOf.names (h : PlaceOf base bucket l) :
    ∃ names, l = bucketRoot base bucket ++ names ∧ ∀ name ∈ names, IsName name := by
  have hshards : ∀ id, ∀ name ∈ shards bucket id, IsName name := fun _ _ => isName_of_mem_shards
  have hfile : ∀ id file, IsName file → ∀ name ∈ shards bucket id ++ [file], IsName name := by
    intro id file hname name hmem
    obtain hshard | hlast := List.mem_append.mp hmem
    · exact hshards id name hshard
    · exact List.mem_singleton.mp hlast ▸ hname
  cases h with
  | root => exact ⟨[], by simp, by simp⟩
  | outer id =>
    have hne : shards bucket id ≠ [] := by
      rw [← List.length_pos_iff]
      have hlength := length_shardNames bucket id
      rw [shardNames, List.length_cons] at hlength
      omega
    refine ⟨(shards bucket id).dropLast, List.dropLast_append_of_ne_nil hne, fun name hname => ?_⟩
    exact hshards id name ((List.dropLast_sublist _).subset hname)
  | inner id => exact ⟨shards bucket id, rfl, hshards id⟩
  | payload id =>
    exact ⟨shards bucket id ++ [id.text], List.append_assoc _ _ _, hfile id _ id.isName_text⟩
  | upload id =>
    exact ⟨shards bucket id ++ [".tmp-" ++ id.text], List.append_assoc _ _ _,
      hfile id _ (Id.isName_marked (by decide) id)⟩

/-- The places of a bucket lie in its own directory, and in that of no other bucket. -/
theorem PlaceOf.within_iff (h : PlaceOf base bucket l) :
    (bucketRoot base bucket').within l = true ↔ bucket' = bucket := by
  obtain ⟨names, rfl, -⟩ := h.names
  rw [Location.within_iff, bucketRoot, bucketRoot, List.append_assoc, List.prefix_append_right_inj,
    List.singleton_append, List.cons_prefix_cons, and_iff_left List.nil_prefix,
    Id.text_injective.eq_iff]

/-- Keys that were drawn one after the other are uploaded to different files. -/
theorem uploadFile_ne_of_drawn {supply : IdSupply} (hd : supply.Distinct) {i j : Nat}
    (hi : i < supply.drawn) (hj : j < supply.drawn) (hne : i ≠ j) (bucket bucket' : BucketId) :
    uploadFile base bucket ⟨supply.nth i⟩ ≠ uploadFile base bucket' ⟨supply.nth j⟩ := by
  intro h
  have hkey := congrArg Id.bits (uploadFile_inj h).2
  exact hne (hd i j hi hj hkey)

/-- What a store keeps below `base` is told apart by buckets and objects. -/
structure PlacesApart (base : Location) : Prop where
  payloads : ∀ bucket id bucket' id', payloadFile base bucket id = payloadFile base bucket' id' →
    bucket = bucket' ∧ id = id'
  uploads : ∀ bucket id bucket' id', uploadFile base bucket id = uploadFile base bucket' id' →
    bucket = bucket' ∧ id = id'
  /-- No two uploads share a file, for each draws a key of its own. -/
  drawn : ∀ supply : IdSupply, supply.Distinct → ∀ i j, i < supply.drawn → j < supply.drawn →
    i ≠ j → ∀ bucket bucket',
      uploadFile base bucket ⟨supply.nth i⟩ ≠ uploadFile base bucket' ⟨supply.nth j⟩
  unfinished : ∀ bucket id bucket' id', uploadFile base bucket id ≠ payloadFile base bucket' id'
  names : ∀ bucket l, PlaceOf base bucket l →
    ∃ names, l = bucketRoot base bucket ++ names ∧ ∀ name ∈ names, IsName name
  within : ∀ bucket bucket' l, PlaceOf base bucket l →
    ((bucketRoot base bucket').within l = true ↔ bucket' = bucket)

theorem placesApart (base : Location) : PlacesApart base where
  payloads _ _ _ _ := payloadFile_inj
  uploads _ _ _ _ := uploadFile_inj
  drawn _ hd _ _ := uploadFile_ne_of_drawn hd
  unfinished _ _ _ _ := uploadFile_ne_payloadFile _ _ _ _
  names _ _ h := h.names
  within _ _ _ h := h.within_iff

end Durable

/-- Identifiers are never confused, nor are the places that are named by them. A text of an
identifier reads as this identifier and no slash can cut it, so it leads every gateway straight
to what is identified; payloads, uploads and the directories of buckets stay apart below every
base directory. -/
theorem identifiers_never_confused :
    (∀ {kind : IdKind} (id : Id kind), '/' ∉ id.text.toList ∧ Id.parse? id.text = some id) ∧
    (∀ (bucket : BucketId) (id : ObjectId),
      FsPath.parse ("/" ++ bucket.text) = .ok (.bucket bucket.text) ∧
        FsPath.parse ("/" ++ bucket.text ++ "/" ++ id.text) = .ok (.object bucket.text id.text)) ∧
    (∀ (g : Gateway) (bucket : BucketId) (id : ObjectId), g.FetchesDirectly bucket id) ∧
    ∀ base : Location, Durable.PlacesApart base :=
  ⟨fun id => ⟨id.isName_text.noSlash, id.parse?_text⟩, FsPath.parse_ids,
    Gateway.fetchesDirectly, Durable.placesApart⟩

/-- A bucket and an object of which both are told apart from others by a single digit. -/
theorem identifiers_never_confused_lastDigit :
    let g : Gateway := ⟨{}, 1, 0⟩
    let bucket : BucketId := ⟨1⟩
    let id : ObjectId := ⟨1⟩
    let base : Location := ["data"]
    let supply : IdSupply := ⟨BitVec.ofNat 128, 3⟩
    let place := Durable.payloadFile base bucket id
    g.resolveObject ⟨some bucket, "b", 0⟩ id.text "/b/o" = g.fetchObject bucket id "/b/o" ∧
    ((∃ r, (g.dispatch (.rmdir (.bucket bucket.text))).run = .done r) ∨
      FsProgram.StartsWith (g.fetchBucket bucket ("/" ++ bucket.text))
        (g.dispatch (.rmdir (.bucket bucket.text)))) ∧
    supply.Distinct ∧
    Durable.uploadFile base bucket ⟨supply.nth 1⟩ ≠ Durable.uploadFile base bucket ⟨supply.nth 2⟩ ∧
    Durable.PlaceOf base bucket place ∧ (Durable.bucketRoot base bucket).within place = true ∧
    ¬(Durable.bucketRoot base ⟨2⟩).within place = true := by
  intro g bucket id base supply place
  obtain ⟨-, -, hfetches, hplaces⟩ := identifiers_never_confused
  have hsupply : supply.Distinct := IdSupply.distinct_counting (by decide)
  have hplace : Durable.PlaceOf base bucket place := .payload id
  refine ⟨(hfetches g bucket id).findsObject _ _ rfl, (hfetches g bucket id).begins _ rfl (by decide),
    hsupply, (hplaces base).drawn supply hsupply 1 2 (by decide) (by decide) (by decide) _ _,
    hplace, ((hplaces base).within _ _ _ hplace).mpr rfl, fun h => ?_⟩
  exact absurd (((hplaces base).within _ _ _ hplace).mp h) (by decide)

end ObjectGateway
