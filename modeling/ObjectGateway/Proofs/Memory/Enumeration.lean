import ObjectGateway.Proofs.Backend.History
import ObjectGateway.Proofs.Memory.Changes
/-!
# A store is its history

What a store in memory lists, finds and counts is what has been put into it and not been
taken out since, in the order in which it was put in. Each call changes one thing at most.
-/
namespace ObjectGateway

-- ---------------------------------------------------------------------------
-- What a history leaves
-- ---------------------------------------------------------------------------

/-- What the deeds of a history put in, first to last, without what a later one takes out. -/
def surviving {α : Type} (puts : Deed → Option α) (takes : Deed → α → Bool) :
    List Deed → List α
  | [] => []
  | d :: later =>
    (puts d).toList.filter (fun a => later.all fun e => !takes e a) ++ surviving puts takes later

section Surviving

variable {α : Type} {puts : Deed → Option α} {takes : Deed → α → Bool} {log : List Deed} {d : Deed}

/-- The last deed takes out of what there was, and what it puts in comes last. -/
theorem surviving_concat (puts : Deed → Option α) (takes : Deed → α → Bool) (log : List Deed)
    (d : Deed) : surviving puts takes (log ++ [d]) =
      (surviving puts takes log).filter (fun a => !takes d a) ++ (puts d).toList := by
  induction log with
  | nil => simp [surviving]
  | cons first rest ih =>
    simp only [List.cons_append, surviving, ih, List.all_append, List.filter_append,
      List.filter_filter, List.append_assoc]
    congr 2
    funext a
    simp [Bool.and_comm]

theorem surviving_concat_put (htakes : ∀ a, takes d a = false) :
    surviving puts takes (log ++ [d]) = surviving puts takes log ++ (puts d).toList := by
  simp [surviving_concat, htakes]

theorem surviving_concat_take (hputs : puts d = none) :
    surviving puts takes (log ++ [d]) = (surviving puts takes log).filter fun a => !takes d a := by
  simp [surviving_concat, hputs]

/-- A deed that neither puts in nor takes out leaves all as it was. -/
theorem surviving_concat_idle (hputs : puts d = none) (htakes : ∀ a, takes d a = false) :
    surviving puts takes (log ++ [d]) = surviving puts takes log := by
  simp [surviving_concat, hputs, htakes]

theorem surviving_eq_nil (hputs : ∀ d ∈ log, puts d = none) : surviving puts takes log = [] := by
  induction log with
  | nil => rfl
  | cons first rest ih =>
    simp [surviving, hputs first List.mem_cons_self,
      ih fun d hd => hputs d (List.mem_cons_of_mem first hd)]

end Surviving

/-- A bucket that was created: its identifier, and what was asked for. -/
structure Creation where
  id : BucketId
  header : BucketHeader

/-- An object that was uploaded: its identifier, what was asked for and what was sent. -/
structure Upload where
  id : ObjectId
  header : ObjectHeader
  payload : Bytes

/-- What a filter asks of an object: that it was stored without a parent, or with an
attribute that is exactly this pair. -/
def Upload.Satisfies (u : Upload) : SearchFilter → Prop
  | .root => u.header.parent = none
  | .attribute key value => (key, value) ∈ u.header.attributes.pairs

instance (u : Upload) : DecidablePred u.Satisfies
  | .root => inferInstanceAs (Decidable (u.header.parent = none))
  | .attribute key value => inferInstanceAs (Decidable ((key, value) ∈ u.header.attributes.pairs))

namespace Deed

/-- The bucket that a successful call created. -/
def creation? : Deed → Option Creation
  | ⟨.putBucket header, .ok id⟩ => some ⟨id, header⟩
  | _ => none

/-- The object that a successful call stored in the bucket. -/
def upload? (bucket : BucketId) : Deed → Option Upload
  | ⟨.putObject header payload, .ok id⟩ =>
    if header.bucket = bucket then some ⟨id, header, payload.content⟩ else none
  | _ => none

def deletesBucket : Deed → BucketId → Bool
  | ⟨.deleteBucket bucket, .ok _⟩, bucket' => bucket' == bucket
  | _, _ => false

def deletesObject (bucket : BucketId) : Deed → ObjectId → Bool
  | ⟨.deleteObject bucket' id, .ok _⟩, id' => bucket' == bucket && id' == id
  | _, _ => false

end Deed

/-- The buckets that a history leaves. -/
def creations (log : List Deed) : List Creation :=
  surviving Deed.creation? (fun d c => d.deletesBucket c.id) log

/-- The objects that a history leaves in a bucket. -/
def uploads (bucket : BucketId) (log : List Deed) : List Upload :=
  surviving (Deed.upload? bucket) (fun d u => d.deletesObject bucket u.id) log

theorem creations_concat (log : List Deed) (d : Deed) : creations (log ++ [d]) =
    (creations log).filter (fun c => !d.deletesBucket c.id) ++ d.creation?.toList :=
  surviving_concat _ _ log d

theorem uploads_concat (bucket : BucketId) (log : List Deed) (d : Deed) :
    uploads bucket (log ++ [d]) =
      (uploads bucket log).filter (fun u => !d.deletesObject bucket u.id) ++
        (d.upload? bucket).toList :=
  surviving_concat _ _ log d

/-- The deed puts nothing in and takes nothing out. -/
structure Deed.Idle (d : Deed) : Prop where
  creation : d.creation? = none
  upload : ∀ bucket, d.upload? bucket = none
  deletesBucket : ∀ id, d.deletesBucket id = false
  deletesObject : ∀ bucket id, d.deletesObject bucket id = false

theorem Deed.Idle.of_error (c : Command) (cause : BackendError) : Idle ⟨c, .error cause⟩ := by
  cases c <;> exact ⟨rfl, fun _ => rfl, fun _ => rfl, fun _ _ => rfl⟩

theorem Deed.Idle.of_looked {c : Command} (h : c.isMutating = false) (a : c.Answer) :
    Idle ⟨c, .ok a⟩ := by
  cases c <;> first
    | exact ⟨rfl, fun _ => rfl, fun _ => rfl, fun _ _ => rfl⟩
    | cases h

-- ---------------------------------------------------------------------------
-- What a store holds
-- ---------------------------------------------------------------------------

def Creation.info (c : Creation) : BucketMeta :=
  ⟨c.id, c.header.owner, c.header.policy, c.header.acl, c.header.attributes⟩

def Upload.stored (u : Upload) : Memory.StoredObject :=
  .ofHeader u.id u.header u.payload

namespace Memory

/-- The buckets that a history leaves, with the objects that it leaves in them. -/
def recorded (log : List Deed) : List StoredBucket :=
  (creations log).map fun c => ⟨c.info, (uploads c.id log).map Upload.stored⟩

variable {log : List Deed} {d : Deed} {m left : Store} {ids : IdSupply}

theorem recorded_idle (h : d.Idle) : recorded (log ++ [d]) = recorded log := by
  simp only [recorded, creations_concat, uploads_concat, h.creation, h.upload, h.deletesBucket,
    h.deletesObject]
  simp

/-- The store holds what its history leaves, which has put objects only into buckets that
were handed out. -/
structure Accounts (log : List Deed) (ids : IdSupply) (m : Store) : Prop where
  buckets : m.buckets = recorded log
  issued : ∀ d ∈ log, ∀ bucket, d.upload? bucket ≠ none → ids.Issued bucket

/-- One deed more, which puts its objects, if any, into a bucket that was handed out. -/
theorem Accounts.concat {ids' : IdSupply} (h : Accounts log ids m) (hext : ids'.Extends ids)
    (hbuckets : left.buckets = recorded (log ++ [d]))
    (hissued : ∀ bucket, d.upload? bucket ≠ none → ids'.Issued bucket) :
    Accounts (log ++ [d]) ids' left where
  buckets := hbuckets
  issued d' hd' := by
    obtain hold | rfl : d' ∈ log ∨ d' = d := by simpa using hd'
    · exact fun bucket hbucket => (h.issued d' hold bucket hbucket).of_extends hext
    · exact hissued

theorem Accounts.idle {ids' : IdSupply} (h : Accounts log ids m) (hext : ids'.Extends ids)
    (hidle : d.Idle) : Accounts (log ++ [d]) ids' m :=
  h.concat hext ((recorded_idle hidle).symm ▸ h.buckets)
    fun bucket hbucket => absurd (hidle.upload bucket) hbucket

/-- Nothing has been put into a bucket that was not handed out. -/
theorem Accounts.uploads_eq_nil (h : Accounts log ids m) {bucket : BucketId}
    (hnew : ¬ids.Issued bucket) : uploads bucket log = [] :=
  surviving_eq_nil fun d hd => by
    by_contra hsome
    exact hnew (h.issued d hd bucket hsome)

theorem recorded_putObject (header : ObjectHeader) (payload : PayloadStream) (id : ObjectId) :
    recorded (log ++ [⟨.putObject header payload, .ok id⟩]) =
      (recorded log).map fun b => if b.info.id = header.bucket then
        { b with objects := b.objects ++ [.ofHeader id header payload.content] } else b := by
  have hcreations : creations (log ++ [⟨.putObject header payload, .ok id⟩]) = creations log :=
    surviving_concat_idle rfl fun _ => rfl
  simp only [recorded, hcreations, List.map_map]
  refine List.map_congr_left fun c _ => ?_
  have huploads : uploads c.id (log ++ [⟨.putObject header payload, .ok id⟩]) =
      uploads c.id log ++
        (if header.bucket = c.id then some ⟨id, header, payload.content⟩ else none).toList :=
    surviving_concat_put fun _ => rfl
  rw [huploads]
  by_cases hbucket : header.bucket = c.id
  · simp [hbucket, Creation.info, Upload.stored]
  · simp [hbucket, Ne.symm hbucket, Creation.info]

theorem recorded_deleteObject (bucket : BucketId) (id : ObjectId) :
    recorded (log ++ [⟨.deleteObject bucket id, .ok ()⟩]) =
      (recorded log).map fun b => if b.info.id = bucket then
        { b with objects := b.objects.filter fun o => o.info.id != id } else b := by
  have hcreations : creations (log ++ [⟨.deleteObject bucket id, .ok ()⟩]) = creations log :=
    surviving_concat_idle rfl fun _ => rfl
  simp only [recorded, hcreations, List.map_map]
  refine List.map_congr_left fun c _ => ?_
  have huploads : uploads c.id (log ++ [⟨.deleteObject bucket id, .ok ()⟩]) =
      (uploads c.id log).filter fun u => !(bucket == c.id && u.id == id) :=
    surviving_concat_take rfl
  rw [huploads]
  by_cases hbucket : bucket = c.id
  · simp [hbucket, Creation.info, List.filter_map, Function.comp_def, Upload.stored,
      StoredObject.ofHeader, bne]
  · simp [beq_false_of_ne hbucket, Ne.symm hbucket, Creation.info]

theorem recorded_putBucket (header : BucketHeader) (id : BucketId)
    (hnew : uploads id log = []) :
    recorded (log ++ [⟨.putBucket header, .ok id⟩]) =
      recorded log ++ [⟨⟨id, header.owner, header.policy, header.acl, header.attributes⟩, []⟩] := by
  have hcreations : creations (log ++ [⟨.putBucket header, .ok id⟩]) =
      creations log ++ [⟨id, header⟩] := surviving_concat_put fun _ => rfl
  have huploads : ∀ bucket,
      uploads bucket (log ++ [⟨.putBucket header, .ok id⟩]) = uploads bucket log :=
    fun bucket => surviving_concat_idle rfl fun _ => rfl
  simp only [recorded, hcreations, huploads, List.map_append]
  simp [hnew, Creation.info]

theorem recorded_deleteBucket (id : BucketId) :
    recorded (log ++ [⟨.deleteBucket id, .ok ()⟩]) =
      (recorded log).filter fun b => b.info.id != id := by
  have hcreations : creations (log ++ [⟨.deleteBucket id, .ok ()⟩]) =
      (creations log).filter fun c => !(c.id == id) := surviving_concat_take rfl
  have huploads : ∀ bucket,
      uploads bucket (log ++ [⟨.deleteBucket id, .ok ()⟩]) = uploads bucket log :=
    fun bucket => surviving_concat_idle rfl fun _ => rfl
  simp only [recorded, hcreations, huploads, List.filter_map]
  rfl

theorem recounts_accounts : Recounts Accounts where
  failed c cause hext h := h.idle hext (.of_error c cause)
  done {log w c a left} hdone hsound hd h := by
    have hext := hdone.extends
    cases hdone with
    | looked hlooks a => exact h.idle hext (.of_looked hlooks a)
    | @stored header payload chunks hdrain hbucket =>
      refine h.concat hext ?_ fun bucket hput => ?_
      · rw [recorded_putObject, PayloadStream.content_of_complete hdrain, ← h.buckets]
        rfl
      · obtain ⟨b, hmem, hid⟩ := Store.bucket?_isSome_iff.mp hbucket
        have hsame : header.bucket = bucket := by
          by_contra hother
          exact hput (if_neg hother)
        exact hsame ▸ hid ▸ (hsound.issued b hmem).of_extends hext
    | deletedObject =>
      refine h.concat hext ?_ fun _ hput => absurd rfl hput
      rw [recorded_deleteObject, ← h.buckets]
      rfl
    | made header =>
      refine h.concat hext ?_ fun _ hput => absurd rfl hput
      have hnew : uploads (w.host.draw .bucket).1 log = [] :=
        h.uploads_eq_nil (IdSupply.not_issued_draw hd)
      rw [recorded_putBucket header _ hnew, ← h.buckets]
      rfl
    | deletedBucket =>
      refine h.concat hext ?_ fun _ hput => absurd rfl hput
      rw [recorded_deleteBucket, ← h.buckets]
      rfl

/-! ## One call more -/

/-- All that a call does to the buckets of a store, by what came of it: one bucket or one
object more or less, at the end or in its place, and everything else as it was. -/
inductive Amends (m left : Store) : Deed → Prop
  | failed {c : Command} {cause : BackendError} (h : left.buckets = m.buckets) :
      Amends m left ⟨c, .error cause⟩
  | looked {c : Command} {a : c.Answer} (hlooks : c.isMutating = false)
      (h : left.buckets = m.buckets) : Amends m left ⟨c, .ok a⟩
  | created {c : Creation} (h : m.GainsBucket ⟨c.info, []⟩ left) :
      Amends m left ⟨.putBucket c.header, .ok c.id⟩
  | deleted {b : StoredBucket} (h : m.LosesBucket b left) :
      Amends m left ⟨.deleteBucket b.info.id, .ok ()⟩
  | uploaded {b : StoredBucket} {header : ObjectHeader} {payload : PayloadStream} {id : ObjectId}
      (hbucket : header.bucket = b.info.id)
      (h : m.GainsObject b (Upload.stored ⟨id, header, payload.content⟩) left) :
      Amends m left ⟨.putObject header payload, .ok id⟩
  | removed {b : StoredBucket} {o : StoredObject} (h : m.LosesObject b o left) :
      Amends m left ⟨.deleteObject b.info.id o.info.id, .ok ()⟩

theorem Done.amends {w after : World Store} {c : Command} {a : c.Answer} (h : Done w c a after)
    (hapart : w.store.Apart) (hm : m.buckets = w.store.buckets)
    (hleft : left.buckets = after.store.buckets) : Amends m left ⟨c, .ok a⟩ := by
  cases h with
  | looked hlooks => exact .looked hlooks (hleft.trans hm.symm)
  | @stored header payload chunks hdrain hbucket =>
    obtain ⟨b, hmem, hid⟩ := Store.bucket?_isSome_iff.mp hbucket
    have hgains := hapart.gainsObject
      (o := .ofHeader (w.host.draw .object).1 header chunks.flatten) hmem hid.symm
    rw [← PayloadStream.content_of_complete hdrain] at hgains hleft
    obtain ⟨front, back, hsplit, hadded⟩ := hgains
    exact .uploaded hid.symm ⟨front, back, hm.trans hsplit, hleft.trans hadded⟩
  | @deletedObject bucket id hobject =>
    obtain ⟨o, ho⟩ := Option.isSome_iff_exists.mp hobject
    obtain ⟨b, hbucket, hfind⟩ := Store.object?_eq_some ho
    obtain ⟨hmem, rfl⟩ := Store.bucket?_eq_some hbucket
    obtain ⟨hmem', rfl⟩ := StoredBucket.find?_eq_some hfind
    obtain ⟨front, back, hobjects, front', back', hsplit, hremoved⟩ :=
      hapart.losesObject hmem hmem'
    exact .removed
      ⟨front, back, hobjects, front', back', hm.trans hsplit, hleft.trans hremoved⟩
  | made header =>
    refine .created (c := ⟨(w.host.draw .bucket).1, header⟩) (hleft.trans ?_)
    rw [hm]
    rfl
  | @deletedBucket id hbucket =>
    obtain ⟨b, hb⟩ := Option.isSome_iff_exists.mp hbucket
    obtain ⟨hmem, rfl⟩ := Store.bucket?_eq_some hb
    obtain ⟨front, back, hsplit, hremoved⟩ := hapart.losesBucket hmem
    exact .deleted ⟨front, back, hm.trans hsplit, hleft.trans hremoved⟩

theorem settle_amends {w : World Store} (h : Stocks w m) (hsound : m.Sound w.host.ids)
    (ctx : Context) (c : Command) (hd : (ctx.settle w (backend.call c w)).2.host.ids.Distinct) :
    Amends w.store (ctx.settle w (backend.call c w)).2.store
      ⟨c, (ctx.settle w (backend.call c w)).1⟩ := by
  have hsettled := atomic.settle ctx c h hd
  generalize ctx.settle w (backend.call c w) = r at hsettled hd ⊢
  obtain ⟨outcome, left⟩ := r
  cases hsettled with
  | inl hserved =>
    have hanswer := hserved.answer
    have hleft := hserved.holds.2
    cases outcome with
    | ok a => exact (done_of_answer hanswer).amends hsound.apart h.2 hleft
    | error cause =>
      rw [serve_error hanswer] at hleft
      exact .failed (hleft.trans h.2.symm)
  | inr hrefused =>
    obtain ⟨cause, rfl : outcome = .error cause⟩ := hrefused.failed
    exact .failed (hrefused.holds.2.trans h.2.symm)

/-! ## What is answered -/

/-- What a store reports is what its history leaves: the buckets of an owner, and in each
bucket the objects that satisfy some filters, in the order in which they came; how many
objects there are, how large they are and what they hold. Of any other bucket there is
nothing. -/
structure Reports (log : List Deed) (w : World Store) : Prop where
  buckets : ∀ owner, (backend.call (.listBuckets owner) w).answer =
    some (.ok (((creations log).filter fun c => c.header.owner = owner).map (·.id)))
  distinct : ((creations log).map (·.id)).Nodup
  bucket : ∀ c ∈ creations log, (backend.call (.getBucket c.id) w).answer = some (.ok c.info)
  objects : ∀ c ∈ creations log, ∀ filters, (backend.call (.searchObjects c.id filters) w).answer =
    some (.ok (((uploads c.id log).filter fun u => ∀ f ∈ filters, u.Satisfies f).map (·.id)))
  count : ∀ c ∈ creations log, w.store.objectCount c.id = (uploads c.id log).length
  /-- Unless the store has been told to fail for it. -/
  head : ∀ c ∈ creations log, ∀ u ∈ uploads c.id log, u.id ∉ w.store.failingHeads →
    (backend.call (.headObject c.id u.id) w).answer =
      some (.ok ⟨u.id, c.id, u.header.owner, u.payload.length, u.header.attributes⟩)
  range : ∀ c ∈ creations log, ∀ u ∈ uploads c.id log, ∀ offset length,
    offset + length ≤ u.payload.length →
      (backend.call (.getRange c.id u.id offset length) w).answer =
        some (.ok (u.payload.slice offset length))
  absent : ∀ bucket, (∀ c ∈ creations log, c.id ≠ bucket) →
    (backend.call (.getBucket bucket) w).answer = some (.error .notFound) ∧
      (∀ filters, (backend.call (.searchObjects bucket filters) w).answer =
        some (.error .notFound)) ∧ w.store.objectCount bucket = 0

/-- An object satisfies a filter by what was asked for when it was stored. -/
theorem satisfies_stored (u : Upload) (f : SearchFilter) :
    u.stored.satisfies f = true ↔ u.Satisfies f := by
  obtain - | ⟨key, value⟩ := f
  · exact Option.isNone_iff_eq_none
  · exact List.contains_iff_mem

/-- A store that is not stalled serves its calls. -/
theorem answer_of_awake {w : World Store} (h : w.store.stalled = false) (c : Command) :
    (backend.call c w).answer = (serve (counted w) c).answer := by
  simp [backend, call, counted, h]

theorem reports {w : World Store} (hawake : w.store.stalled = false)
    (hsound : w.store.Sound w.host.ids) (hbuckets : w.store.buckets = recorded log) :
    Reports log w := by
  have hmem : ∀ c ∈ creations log,
      (⟨c.info, (uploads c.id log).map Upload.stored⟩ : StoredBucket) ∈ w.store.buckets := by
    intro c hc
    rw [hbuckets]
    exact List.mem_map_of_mem hc
  have hfound : ∀ c ∈ creations log,
      w.store.bucket? c.id = some ⟨c.info, (uploads c.id log).map Upload.stored⟩ :=
    fun c hc => hsound.bucket?_of_mem (hmem c hc)
  have hobject : ∀ c ∈ creations log, ∀ u ∈ uploads c.id log,
      w.store.object? c.id u.id = some u.stored :=
    fun c hc u hu => hsound.apart.object?_of_mem (hmem c hc) (List.mem_map_of_mem hu)
  constructor
  case buckets =>
    intro owner
    simp only [answer_of_awake hawake, serve, looked, answered, counted, hbuckets, recorded,
      List.filter_map, List.map_map]
    rfl
  case distinct =>
    have hdistinct := hsound.distinct
    rw [hbuckets, recorded, List.map_map] at hdistinct
    exact hdistinct
  case bucket =>
    intro c hc
    have hthere : (counted w).store.bucket? c.id = _ := hfound c hc
    simp only [answer_of_awake hawake, serve, looked, answered, hthere]
  case objects =>
    intro c hc filters
    have hall : ∀ u : Upload, filters.all u.stored.satisfies =
        decide (∀ f ∈ filters, u.Satisfies f) := by
      intro u
      rw [Bool.eq_iff_iff]
      simp [satisfies_stored]
    have hthere : (counted w).store.bucket? c.id = _ := hfound c hc
    simp only [answer_of_awake hawake, serve, looked, answered, Store.search, hthere,
      List.filter_map, List.map_map, Function.comp_def, hall]
    rfl
  case count =>
    intro c hc
    simp only [Store.objectCount, hfound c hc, List.length_map]
  case head =>
    intro c hc u hu hnever
    -- The bucket that was asked for is the one in which the object is found.
    have hbucket : u.header.bucket = c.id :=
      (hsound.inside _ (hmem c hc)).filed u.stored (List.mem_map_of_mem hu)
    have hthere : (counted w).store.object? c.id u.id = _ := hobject c hc u hu
    have hanswers : (counted w).store.failingHeads.contains u.id = false := by
      simpa [counted] using hnever
    simp only [answer_of_awake hawake, serve, looked, answered, Store.head, hanswers, hthere,
      Upload.stored, StoredObject.ofHeader, hbucket]
    rfl
  case range =>
    intro c hc u hu offset length hfit
    have hthere : (counted w).store.object? c.id u.id = _ := hobject c hc u hu
    simp only [answer_of_awake hawake, serve, looked, answered, Store.range, hthere]
    exact congrArg some (if_pos hfit)
  case absent =>
    intro bucket hother
    have hmissing : w.store.bucket? bucket = none := by
      rw [Store.bucket?, hbuckets, List.find?_eq_none]
      simpa [recorded, Creation.info] using hother
    have hmissing' : (counted w).store.bucket? bucket = none := hmissing
    refine ⟨?_, fun filters => ?_, by simp only [Store.objectCount, hmissing]⟩
    · simp only [answer_of_awake hawake, serve, looked, answered, hmissing']
    · simp only [answer_of_awake hawake, serve, looked, answered, Store.search, hmissing']

/-! ## Whole histories -/

/-- A history of calls in the course of which the store may also be told to answer none of
them for a while, and to fail for the heads of some objects. -/
inductive Course (start : World Store) : List Deed → World Store → Prop
  | start : Course start [] start
  | calls {log later : List Deed} {w w' : World Store} (h : Course start log w)
      (hcalls : backend.Run w later w') : Course start (log ++ later) w'
  | stalled {log : List Deed} {w : World Store} (h : Course start log w) (stalled : Bool) :
      Course start log { w with store := w.store.setStalled stalled }
  | headFails {log : List Deed} {w : World Store} (h : Course start log w) (id : ObjectId) :
      Course start log { w with store := w.store.failHead id }

theorem Course.extends {start w : World Store} (h : Course start log w) :
    w.host.ids.Extends start.host.ids := by
  induction h with
  | start => exact .refl _
  | calls _ hcalls ih => exact (atomic.extends_of_run hcalls).trans ih
  | stalled _ _ ih => exact ih
  | headFails _ _ ih => exact ih

theorem Course.recounts {start w : World Store} {I : List Deed → IdSupply → Store → Prop}
    (h : Course start log w) (hI : Recounts I)
    (hstart : ∃ m, Stocks start m ∧ m.Sound start.host.ids ∧ I [] start.host.ids m)
    (hd : w.host.ids.Distinct) :
    ∃ m, Stocks w m ∧ m.Sound w.host.ids ∧ I log w.host.ids m := by
  induction h with
  | start => exact hstart
  | calls _ hcalls ih =>
    exact atomic.run_recounts hI _ hcalls (ih (hd.of_extends (atomic.extends_of_run hcalls))) hd
  -- What a store is told does not touch what it holds.
  | stalled _ _ ih => exact ih hd
  | headFails _ _ ih => exact ih hd

/-- After any calls of a store that was empty, whether they succeeded or not, the store
reports what their history leaves, unless it is stalled. One call more changes what it says
and nothing else. -/
theorem enumeration_is_history {start w : World Store} (hempty : start.store.buckets = [])
    (hcourse : Course start log w) (hd : w.host.ids.Distinct) :
    (w.store.stalled = false → Reports log w) ∧
      ∀ (ctx : Context) (c : Command), (ctx.settle w (backend.call c w)).2.host.ids.Distinct →
        Amends w.store (ctx.settle w (backend.call c w)).2.store
          ⟨c, (ctx.settle w (backend.call c w)).1⟩ := by
  have hstart : Stocks start {} := ⟨⟨rfl, rfl⟩, hempty⟩
  have hnothing : Accounts [] start.host.ids {} := ⟨rfl, by simp⟩
  obtain ⟨m, hm, hsound, haccounts⟩ :=
    hcourse.recounts recounts_accounts ⟨_, hstart, by constructor <;> simp, hnothing⟩ hd
  have hself : w.store.Sound w.host.ids :=
    ⟨hm.2 ▸ hsound.distinct, hm.2 ▸ hsound.issued, hm.2 ▸ hsound.inside⟩
  exact ⟨fun hawake => reports hawake hself (hm.2.trans haccounts.buckets),
    fun ctx c hd' => settle_amends hm hsound ctx c hd'⟩

/-- Two buckets and three objects, of which one each is deleted again, one call that fails
and one that comes while the store is stalled. The store is told to fail for one head. -/
theorem enumeration_is_history_deletions :
    let start : World Store := ⟨{ ids := ⟨BitVec.ofNat 128, 0⟩ }, {}⟩
    let header : ObjectHeader := { bucket := ⟨0⟩, owner := Id.nil }
    let upload (byte : UInt8) : Command := .putObject header (.ofChunks [[byte]])
    let first := backend.after start
      [.putBucket { owner := Id.nil }, .putBucket { owner := Id.nil }, upload 1, upload 2, upload 3,
        .deleteObject ⟨0⟩ ⟨3⟩, .deleteBucket ⟨1⟩, .deleteBucket ⟨1⟩]
    let second := backend.after { first.2 with store := first.2.store.setStalled true }
      [.deleteBucket ⟨0⟩]
    let awake : World Store := { second.2 with store := second.2.store.setStalled false }
    let w : World Store := { awake with store := awake.store.failHead ⟨4⟩ }
    let log := first.1 ++ second.1
    start.store.buckets = [] ∧ Course start log w ∧ w.host.ids.Distinct ∧
      w.store.stalled = false ∧ Reports log w ∧
      (creations log).map (·.id) = [⟨0⟩] ∧ (uploads ⟨0⟩ log).map (·.id) = [⟨2⟩, ⟨4⟩] ∧
      (Context.settle {} w (backend.call (upload 4) w)).2.host.ids.Distinct ∧
      Amends w.store (Context.settle {} w (backend.call (upload 4) w)).2.store
        ⟨upload 4, (Context.settle {} w (backend.call (upload 4) w)).1⟩ := by
  intro start header upload first second awake w log
  have hfirst : backend.Run start first.1 first.2 := backend.run_after start _
  have hsecond : backend.Run { first.2 with store := first.2.store.setStalled true }
      second.1 second.2 := backend.run_after _ _
  have hcourse : Course start log w :=
    (((Course.start.calls hfirst).stalled true |>.calls hsecond).stalled false).headFails ⟨4⟩
  have hext := hcourse.extends
  have hd : w.host.ids.Distinct := IdSupply.distinct_of_counting hext rfl (by decide +kernel)
  have hd' : (Context.settle {} w (backend.call (upload 4) w)).2.host.ids.Distinct :=
    IdSupply.distinct_of_counting ((atomic.extends_settle {} w (upload 4)).trans hext) rfl
      (by decide +kernel)
  obtain ⟨hreports, hamends⟩ := enumeration_is_history rfl hcourse hd
  have hawake : w.store.stalled = false := rfl
  exact ⟨rfl, hcourse, hd, hawake, hreports hawake, by decide +kernel, by decide +kernel,
    hd', hamends {} (upload 4) hd'⟩

end Memory

end ObjectGateway
