import ObjectGateway.Durable.Store
import ObjectGateway.Proofs.Host.Layers
import ObjectGateway.Proofs.Memory.Store
/-!
# Files of what is stored

A file tree files a store when the files below the base directory are the payloads of
its objects, each in its place and no other file beside them, and every bucket has its
directory. The steps of an upload and of a deletion keep the tree so.
-/
namespace ObjectGateway

namespace Md5

theorem length_littleEndian (width n : Nat) : (littleEndian width n).length = width := by
  induction width generalizing n with
  | zero => rfl
  | succ width ih => simp [littleEndian, ih]

theorem length_digest (message : List UInt8) : (digest message).length = 16 := by
  simp [digest, Progress.finish, length_littleEndian]

end Md5

namespace Durable

open Memory (StoredBucket StoredObject)

variable {base : Location} {bucket bucket' : BucketId} {id id' : ObjectId}

/-! ## Places -/

/-- The names on the way from the base directory to the directory of an object. -/
def shardNames (bucket : BucketId) (id : ObjectId) : Location :=
  bucket.text :: shards bucket id

theorem length_shardNames (bucket : BucketId) (id : ObjectId) :
    (shardNames bucket id).length = 3 := by
  simp [shardNames, shards, Md5.length_digest]

theorem shardDir_eq (base : Location) (bucket : BucketId) (id : ObjectId) :
    shardDir base bucket id = base ++ shardNames bucket id := by
  simp [shardDir, bucketRoot, shardNames]

theorem payloadFile_eq (base : Location) (bucket : BucketId) (id : ObjectId) :
    payloadFile base bucket id = base ++ (shardNames bucket id ++ [id.text]) := by
  simp [payloadFile, shardDir_eq]

theorem uploadFile_eq (base : Location) (bucket : BucketId) (id : ObjectId) :
    uploadFile base bucket id = base ++ (shardNames bucket id ++ [".tmp-" ++ id.text]) := by
  simp [uploadFile, shardDir_eq]

/-- The two directories that an object is filed under. -/
def shardDirs (base : Location) (bucket : BucketId) (id : ObjectId) : List Location :=
  [(shardDir base bucket id).dropLast, shardDir base bucket id]

theorem mem_shardDirs_iff {k : Location} :
    base ++ k ∈ shardDirs base bucket id ↔ 2 ≤ k.length ∧ k <+: shardNames bucket id := by
  have hlen := length_shardNames bucket id
  have hne : shardNames bucket id ≠ [] := by simp [shardNames]
  rw [shardDirs, shardDir_eq, List.dropLast_append_of_ne_nil hne, List.mem_pair,
    List.append_cancel_left_eq, List.append_cancel_left_eq]
  constructor
  · rintro (rfl | rfl)
    · exact ⟨by simp [hlen], List.dropLast_prefix _⟩
    · exact ⟨by omega, List.prefix_refl _⟩
  · rintro ⟨hlong, hk⟩
    have hle := hk.length_le
    have htake := List.prefix_iff_eq_take.mp hk
    obtain h2 | h3 : k.length = 2 ∨ k.length = 3 := by omega
    · left
      rw [List.dropLast_eq_take, hlen, htake, h2]
    · right
      rw [htake, h3, ← hlen, List.take_length]

theorem exists_below_of_mem_shardDirs {l : Location} (h : l ∈ shardDirs base bucket id) :
    ∃ k, l = base ++ k := by
  have hne : shardNames bucket id ≠ [] := by simp [shardNames]
  rw [shardDirs, shardDir_eq, List.dropLast_append_of_ne_nil hne, List.mem_pair] at h
  exact h.elim (fun h => ⟨_, h⟩) fun h => ⟨_, h⟩

/-- A file beside the payload of an object tells the bucket and its own name. That of the object
is not to be had from the directory, which other objects may share. -/
theorem shardDir_concat_inj {name name' : String}
    (h : shardDir base bucket id ++ [name] = shardDir base bucket' id' ++ [name']) :
    bucket = bucket' ∧ name = name' := by
  rw [shardDir_eq, shardDir_eq, List.append_assoc, List.append_assoc,
    List.append_cancel_left_eq] at h
  obtain ⟨hnames, hname⟩ := List.append_inj' h rfl
  have hbucket : bucket.text = bucket'.text := by
    simp only [shardNames, List.cons.injEq] at hnames
    exact hnames.1
  exact ⟨Id.text_injective hbucket, List.singleton_inj.mp hname⟩

/-- Different objects have different payload files. -/
theorem payloadFile_inj (h : payloadFile base bucket id = payloadFile base bucket' id') :
    bucket = bucket' ∧ id = id' := by
  obtain ⟨hbucket, hname⟩ := shardDir_concat_inj h
  exact ⟨hbucket, Id.text_injective hname⟩

/-- Different objects are uploaded to different files. -/
theorem uploadFile_inj (h : uploadFile base bucket id = uploadFile base bucket' id') :
    bucket = bucket' ∧ id = id' := by
  obtain ⟨hbucket, hname⟩ := shardDir_concat_inj h
  exact ⟨hbucket, Id.text_injective ((String.append_right_inj _).mp hname)⟩

/-- What is being uploaded is no payload yet. -/
theorem uploadFile_ne_payloadFile (bucket : BucketId) (id : ObjectId) (bucket' : BucketId)
    (id' : ObjectId) : uploadFile base bucket id ≠ payloadFile base bucket' id' :=
  fun h => Id.marked_ne_text (by decide) id id' (shardDir_concat_inj h).2

/-- A payload lies in the directory of its bucket and of no other. -/
theorem bucketRoot_prefix_iff :
    [bucket.text] <+: shardNames bucket' id ++ [id.text] ↔ bucket = bucket' := by
  simp [shardNames, List.cons_prefix_cons, Id.text_injective.eq_iff]

/-! ## Filed stores -/

/-- The files below the base directory are the payloads of the store. -/
structure Filed (base : Location) (t : FileTree) (m : Memory.Store) : Prop where
  layered : t.Layered base 4
  roots : ∀ bucket, m.HasBucket bucket → t.find? (bucketRoot base bucket) = some .dir
  payloads : ∀ bucket o, m.Contains bucket o →
    t.find? (payloadFile base bucket o.info.id) = some (.file o.payload)
  owned : ∀ k data, t.find? (base ++ k) = some (.file data) →
    ∃ bucket o, m.Contains bucket o ∧ base ++ k = payloadFile base bucket o.info.id

namespace Filed

variable {t t' : FileTree} {m : Memory.Store} {data : Bytes}

/-- Only directories are made or removed, and those of the buckets are kept. -/
theorem of_same_files (h : Filed base t m) (hlayered : t'.Layered base 4)
    (hroots : ∀ bucket, m.HasBucket bucket → t'.find? (bucketRoot base bucket) = some .dir)
    (hfiles : ∀ k data, t'.find? (base ++ k) = some (.file data) ↔
      t.find? (base ++ k) = some (.file data)) : Filed base t' m where
  layered := hlayered
  roots := hroots
  payloads bucket o ho := by
    have hold := h.payloads bucket o ho
    rw [payloadFile_eq] at hold ⊢
    exact (hfiles _ _).mpr hold
  owned k data hfind := h.owned k data ((hfiles k data).mp hfind)

/-- Directories are made where no file can be. -/
theorem makeDirs (h : Filed base t m) {k : Location} (hk : k.length < 4) :
    ∃ t', t.makeDirs (base ++ k) = (.ok (), t') ∧ t'.find? (base ++ k) = some .dir ∧
      Filed base t' m := by
  obtain ⟨t', hmade, hlayered, hview⟩ := h.layered.makeDirs_below hk
  -- What is made lies above the depth of files, so no file is made or lost.
  refine ⟨t', hmade, by simp [hview], h.of_same_files hlayered (fun b hb => ?_) fun j data => ?_⟩
  · have hold := h.roots b hb
    simp only [bucketRoot] at hold ⊢
    rw [hview]
    split
    · rfl
    · exact hold
  · rw [hview]
    split
    · rename_i hj
      have hlt : j.length < 4 := Nat.lt_of_le_of_lt hj.length_le hk
      constructor
      · simp
      · intro hfile
        exact absurd (h.layered.files hfile) (Nat.ne_of_lt hlt)
    · rfl

/-! ## Uploads -/

/-- The file of an upload can be written once the directory is there. -/
theorem writeFile (h : Filed base t m) (hdir : t.find? (shardDir base bucket id) = some .dir)
    (data : Bytes) : t.writeFile (uploadFile base bucket id) data =
      .ok (t.set (uploadFile base bucket id) (.file data)) := by
  rw [shardDir_eq] at hdir
  rw [uploadFile_eq]
  exact h.layered.writeFile_below hdir (by simp [length_shardNames]) data

/-- The tree while an upload is being written. -/
theorem layered_upload (h : Filed base t m)
    (hdir : t.find? (shardDir base bucket id) = some .dir) (data : Bytes) :
    (t.set (uploadFile base bucket id) (.file data)).Layered base 4 := by
  rw [shardDir_eq] at hdir
  rw [uploadFile_eq]
  exact h.layered.set_below hdir _ (.file data) (by simp [length_shardNames])

/-- Nothing is found at the depth of files where there is no file. -/
theorem find?_eq_none (h : Filed base t m) {k : Location} (hdepth : k.length = 4)
    (hfile : ∀ data, t.find? (base ++ k) ≠ some (.file data)) : t.find? (base ++ k) = none := by
  cases hfind : t.find? (base ++ k) with
  | none => rfl
  | some node =>
    cases node with
    | dir => exact absurd hdepth (Nat.ne_of_lt (h.layered.dirs hfind))
    | file data => exact absurd hfind (hfile data)

/-- Nothing is found where an upload is written. -/
theorem find?_uploadFile (h : Filed base t m) (bucket : BucketId) (id : ObjectId) :
    t.find? (uploadFile base bucket id) = none := by
  rw [uploadFile_eq]
  refine h.find?_eq_none (by simp [length_shardNames]) fun data hfile => ?_
  obtain ⟨bucket', o, -, hplace⟩ := h.owned _ data hfile
  rw [← uploadFile_eq] at hplace
  exact uploadFile_ne_payloadFile _ _ _ _ hplace

/-- Nothing is found where the payload of a new object will lie. -/
theorem find?_payloadFile (h : Filed base t m)
    (hnew : ∀ bucket o, m.Contains bucket o → o.info.id ≠ id) (bucket : BucketId) :
    t.find? (payloadFile base bucket id) = none := by
  rw [payloadFile_eq]
  refine h.find?_eq_none (by simp [length_shardNames]) fun data hfile => ?_
  obtain ⟨bucket', o, ho, hplace⟩ := h.owned _ data hfile
  rw [← payloadFile_eq] at hplace
  exact hnew bucket' o ho (payloadFile_inj hplace).2.symm

/-- What is written for an upload that is abandoned is removed again. -/
theorem abandonUpload_view (h : Filed base t m)
    (hdir : t.find? (shardDir base bucket id) = some .dir) :
    (abandonUpload t (uploadFile base bucket id)).Layered base 4 ∧
      ∀ k, (abandonUpload t (uploadFile base bucket id)).find? (base ++ k) =
        t.find? (base ++ k) := by
  have hwritten := h.layered_upload hdir []
  have hwrite := h.writeFile hdir []
  have hmissing := h.find?_uploadFile bucket id
  rw [uploadFile_eq] at hwritten hwrite hmissing ⊢
  have hne : shardNames bucket id ++ [".tmp-" ++ id.text] ≠ [] := by simp
  generalize shardNames bucket id ++ [".tmp-" ++ id.text] = k at *
  have hfile : (t.set (base ++ k) (.file [])).find? (base ++ k) = some (.file []) := by
    rw [FileTree.find?_set_below hne, if_pos rfl]
  have hafter : Durable.abandonUpload t (base ++ k) =
      (t.set (base ++ k) (.file [])).erase (base ++ k) := by
    simp only [Durable.abandonUpload, hwrite, discard, hwritten.removeFile_below hfile]
  rw [hafter]
  refine ⟨hwritten.erase_below hne (hwritten.leaf_of_file hfile), fun j => ?_⟩
  rw [FileTree.find?_erase_below hne, FileTree.find?_set_below hne]
  by_cases hj : j = k
  · rw [if_pos hj, hj, hmissing]
  · rw [if_neg hj, if_neg hj]

/-- An upload that is abandoned leaves no file. -/
theorem abandonUpload (h : Filed base t m)
    (hdir : t.find? (shardDir base bucket id) = some .dir) :
    Filed base (abandonUpload t (uploadFile base bucket id)) m := by
  obtain ⟨hlayered, hview⟩ := h.abandonUpload_view hdir
  refine h.of_same_files hlayered (fun bucket' hb => ?_) fun k data => by rw [hview]
  have hroot := h.roots bucket' hb
  rw [bucketRoot] at hroot ⊢
  rw [hview, hroot]

/-- A complete upload that is moved into place and then taken back leaves no file either. -/
theorem discard_placed (h : Filed base t m)
    (hdir : t.find? (shardDir base bucket id) = some .dir)
    (hnew : ∀ bucket o, m.Contains bucket o → o.info.id ≠ id) (data : Bytes) :
    ∃ t', (t.set (uploadFile base bucket id) (.file data)).rename
        (uploadFile base bucket id) (payloadFile base bucket id) = .ok t' ∧
      ∀ k, (discard t' (payloadFile base bucket id)).find? (base ++ k) = t.find? (base ++ k) := by
  have hsource := h.find?_uploadFile bucket id
  have htarget := h.find?_payloadFile hnew bucket
  rw [shardDir_eq] at hdir
  rw [uploadFile_eq] at hsource ⊢
  rw [payloadFile_eq] at htarget ⊢
  obtain ⟨t', hrename, hlayered, hview⟩ := h.layered.rename_written hdir
    (by simp [length_shardNames]) (".tmp-" ++ id.text) id.text data
  refine ⟨t', hrename, fun k => ?_⟩
  have hplaced : t'.find? (base ++ (shardNames bucket id ++ [id.text])) = some (.file data) := by
    rw [hview, if_pos rfl]
  rw [discard, hlayered.removeFile_below hplaced, FileTree.find?_erase_below (by simp), hview]
  -- Neither of the two places was taken.
  by_cases hk : k = shardNames bucket id ++ [id.text]
  · rw [if_pos hk, hk, htarget]
  · rw [if_neg hk, if_neg hk]
    by_cases hk' : k = shardNames bucket id ++ [".tmp-" ++ id.text]
    · rw [if_pos hk', hk', hsource]
    · rw [if_neg hk']

/-- A complete upload is moved into place. -/
theorem place (h : Filed base t m) (o : StoredObject)
    (hdir : t.find? (shardDir base o.info.bucket o.info.id) = some .dir)
    (hbucket : m.HasBucket o.info.bucket)
    (hnew : ∀ bucket o', m.Contains bucket o' → o'.info.id ≠ o.info.id) :
    ∃ t', (t.set (uploadFile base o.info.bucket o.info.id) (.file o.payload)).rename
        (uploadFile base o.info.bucket o.info.id) (payloadFile base o.info.bucket o.info.id) =
        .ok t' ∧
      Filed base t' (m.addObject o) := by
  -- The move touches two places that are four names down; bucket roots are one name down.
  have hshort : ∀ (b : BucketId) (name : String),
      [b.text] ≠ shardNames o.info.bucket o.info.id ++ [name] := by
    intro b name heq
    have := congrArg List.length heq
    simp [length_shardNames] at this
  rw [shardDir_eq] at hdir
  obtain ⟨t', hrename, hlayered, hview⟩ := h.layered.rename_written hdir
    (by simp [length_shardNames]) (".tmp-" ++ o.info.id.text) o.info.id.text o.payload
  refine ⟨t', by simpa [uploadFile_eq, payloadFile_eq] using hrename, hlayered,
    fun bucket hb => ?_, fun bucket o' ho => ?_, fun k data hfind => ?_⟩
  · have hold := h.roots bucket (Memory.Store.hasBucket_onObjects.mp hb)
    simp only [bucketRoot] at hold ⊢
    rw [hview, if_neg (hshort _ _), if_neg (hshort _ _)]
    exact hold
  · obtain ho | ⟨rfl, rfl, -⟩ := Memory.Store.contains_addObject.mp ho
    · have hold := h.payloads bucket o' ho
      have hne : payloadFile base bucket o'.info.id ≠
          payloadFile base o.info.bucket o.info.id :=
        fun heq => hnew bucket o' ho (payloadFile_inj heq).2
      have hne' : payloadFile base bucket o'.info.id ≠
          uploadFile base o.info.bucket o.info.id := (uploadFile_ne_payloadFile _ _ _ _).symm
      rw [payloadFile_eq] at hold hne hne' ⊢
      rw [payloadFile_eq] at hne
      rw [uploadFile_eq] at hne'
      rw [hview, if_neg (by simpa using hne), if_neg (by simpa using hne')]
      exact hold
    · rw [payloadFile_eq, hview, if_pos rfl]
  · rw [hview] at hfind
    split at hfind
    · rename_i hk
      refine ⟨o.info.bucket, o, Memory.Store.contains_addObject.mpr (.inr ⟨rfl, rfl, hbucket⟩), ?_⟩
      rw [payloadFile_eq, hk]
    · split at hfind
      · cases hfind
      · obtain ⟨bucket, o', ho, hplace⟩ := h.owned k data hfind
        exact ⟨bucket, o', Memory.Store.contains_addObject.mpr (.inl ho), hplace⟩

/-! ## Buckets and deletions -/

/-- A directory that is there is all that a new bucket needs. -/
theorem addBucket (h : Filed base t m) {info : BucketMeta}
    (hdir : t.find? (bucketRoot base info.id) = some .dir) :
    Filed base t (m.addBucket { info }) where
  layered := h.layered
  roots bucket hb := by
    obtain hb | rfl := Memory.Store.hasBucket_addBucket.mp hb
    · exact h.roots bucket hb
    · exact hdir
  payloads bucket o ho := h.payloads bucket o (Memory.Store.contains_addBucket.mp ho)
  owned k data hfind := by
    obtain ⟨bucket, o, ho, hplace⟩ := h.owned k data hfind
    exact ⟨bucket, o, Memory.Store.contains_addBucket.mpr ho, hplace⟩

/-- Clearing away empty directories of a bucket leaves its own one and all files. -/
theorem removeEmpty (h : Filed base t m) (bucket : BucketId) (bound : Nat) (k : Location) :
    Filed base (t.removeEmpty (bucketRoot base bucket) bound (base ++ k)) m := by
  obtain ⟨hlayered, hview⟩ := h.layered.removeEmpty_below [bucket.text] bound k
  rw [bucketRoot]
  refine h.of_same_files hlayered ?_ ?_
  · intro bucket' hb
    obtain hsame | ⟨-, -, hbelow, hne⟩ := hview [bucket'.text]
    · exact hsame.trans (h.roots bucket' hb)
    · rw [List.cons_prefix_cons] at hbelow
      exact absurd (by rw [hbelow.1]) hne
  · intro j data
    obtain hsame | ⟨hnone, hdir, -⟩ := hview j
    · rw [hsame]
    · simp [hnone, hdir]

/-- The payload of a deleted object is removed, and no other. -/
theorem removePayload (h : Filed base t m) {o : StoredObject} (ho : m.Contains bucket o) :
    ∃ t', t.removeFile (payloadFile base bucket o.info.id) = .ok t' ∧
      Filed base t' (m.removeObject bucket o.info.id) := by
  have hfile := h.payloads bucket o ho
  have hne : shardNames bucket o.info.id ++ [o.info.id.text] ≠ [] := by simp
  rw [payloadFile_eq] at hfile ⊢
  -- What remains: the roots of buckets, the other payloads, and that no file is without owner.
  refine ⟨_, h.layered.removeFile_below hfile,
    h.layered.erase_below hne (h.layered.leaf_of_file hfile), fun bucket' hb => ?_,
    fun bucket' o' ho' => ?_, fun k data hfind => ?_⟩
  · have hold := h.roots bucket' (Memory.Store.hasBucket_onObjects.mp hb)
    simp only [bucketRoot] at hold ⊢
    rw [FileTree.find?_erase_below hne, if_neg, hold]
    intro heq
    have := congrArg List.length heq
    simp [length_shardNames] at this
  · obtain ⟨ho', hother⟩ := Memory.Store.contains_removeObject.mp ho'
    have hold := h.payloads bucket' o' ho'
    have hplace : payloadFile base bucket' o'.info.id ≠ payloadFile base bucket o.info.id :=
      fun heq => hother (payloadFile_inj heq)
    rw [payloadFile_eq, payloadFile_eq, Ne, List.append_cancel_left_eq] at hplace
    rw [payloadFile_eq] at hold ⊢
    rw [FileTree.find?_erase_below hne, if_neg hplace, hold]
  · rw [FileTree.find?_erase_below hne] at hfind
    split at hfind
    · cases hfind
    · rename_i hk
      obtain ⟨bucket', o', ho', hplace⟩ := h.owned k data hfind
      refine ⟨bucket', o', Memory.Store.contains_removeObject.mpr ⟨ho', ?_⟩, hplace⟩
      rintro ⟨rfl, hid⟩
      rw [payloadFile_eq, List.append_cancel_left_eq, hid] at hplace
      exact hk hplace

/-- With its directory a bucket loses its payloads, and no other bucket does. -/
theorem removeBucket (h : Filed base t m) (hb : m.HasBucket bucket) :
    ∃ t', t.removeDirs (bucketRoot base bucket) = .ok t' ∧
      Filed base t' (m.removeBucket bucket) := by
  have hdir := h.roots bucket hb
  have hne : [bucket.text] ≠ [] := by simp
  rw [bucketRoot] at hdir ⊢
  -- Below the root of this bucket there is nothing of another one.
  have hroot : ∀ bucket' : BucketId, bucket' ≠ bucket → ¬[bucket.text] <+: [bucket'.text] := by
    intro bucket' hother hbelow
    rw [List.cons_prefix_cons] at hbelow
    exact hother (Id.text_injective hbelow.1.symm)
  refine ⟨_, h.layered.removeDirs_below hdir, h.layered.prune_below hne, fun bucket' hb' => ?_,
    fun bucket' o ho => ?_, fun k data hfind => ?_⟩
  · obtain ⟨hb', hother⟩ := Memory.Store.hasBucket_removeBucket.mp hb'
    have hold := h.roots bucket' hb'
    rw [bucketRoot] at hold ⊢
    rw [FileTree.find?_prune_below hne, if_neg (hroot bucket' hother), hold]
  · obtain ⟨ho, hother⟩ := Memory.Store.contains_removeBucket.mp ho
    have hold := h.payloads bucket' o ho
    rw [payloadFile_eq] at hold ⊢
    rw [FileTree.find?_prune_below hne, if_neg fun hbelow =>
      hother (bucketRoot_prefix_iff.mp hbelow).symm, hold]
  · rw [FileTree.find?_prune_below hne] at hfind
    split at hfind
    · cases hfind
    · rename_i hk
      obtain ⟨bucket', o, ho, hplace⟩ := h.owned k data hfind
      refine ⟨bucket', o, Memory.Store.contains_removeBucket.mpr ⟨ho, ?_⟩, hplace⟩
      rintro rfl
      rw [payloadFile_eq, List.append_cancel_left_eq] at hplace
      exact hk (hplace ▸ bucketRoot_prefix_iff.mpr rfl)

end Filed
end Durable
end ObjectGateway
