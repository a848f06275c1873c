import Mathlib.Data.List.Forall2
import Mathlib.Data.List.Nodup
import ObjectGateway.Proofs.Memory.Serving
/-!
# Stores that differ in their keys

Two stores that serve the same calls hand out different keys. A renaming pairs the
identifiers that they handed out side by side. Commands, answers and stores correspond
when they are the same up to a renaming.
-/
namespace ObjectGateway

open Memory (StoredBucket StoredObject)

/-! ## Renamings -/

/-- Identifiers handed out side by side, in the order in which they were. -/
structure Renaming where
  buckets : List (BucketId × BucketId) := []
  objects : List (ObjectId × ObjectId) := []

namespace Renaming

section

variable {α : Type} {pairs pairs' : List (α × α)} {x y a b : α}

/-- No identifier has two partners. -/
def OneToOne (pairs : List (α × α)) : Prop :=
  (pairs.map Prod.fst).Nodup ∧ (pairs.map Prod.snd).Nodup

/-- Two identifiers that may be used side by side: partners, or two that are nobody's
partner. -/
def Named (pairs : List (α × α)) (x y : α) : Prop :=
  (x, y) ∈ pairs ∨ x ∉ pairs.map Prod.fst ∧ y ∉ pairs.map Prod.snd

theorem OneToOne.fst_eq_iff (h : OneToOne pairs) (hx : (x, y) ∈ pairs) (ha : (a, b) ∈ pairs) :
    a = x ↔ b = y := by
  constructor
  · rintro rfl
    exact congrArg Prod.snd (List.inj_on_of_nodup_map h.1 ha hx rfl)
  · rintro rfl
    exact congrArg Prod.fst (List.inj_on_of_nodup_map h.2 ha hx rfl)

/-- A partner is the identifier used here when its own partner is the one used there. -/
theorem Named.eq_iff (hn : Named pairs x y) (h : OneToOne pairs) (ha : (a, b) ∈ pairs) :
    a = x ↔ b = y := by
  obtain hxy | ⟨hx, hy⟩ := hn
  · exact h.fst_eq_iff hxy ha
  · constructor
    · rintro rfl
      exact absurd (List.mem_map_of_mem ha) hx
    · rintro rfl
      exact absurd (List.mem_map_of_mem ha) hy

/-- New identifiers make a new pair. -/
theorem OneToOne.append (h : OneToOne pairs) (hx : ∀ p ∈ pairs, p.1 ≠ x)
    (hy : ∀ p ∈ pairs, p.2 ≠ y) : OneToOne (pairs ++ [(x, y)]) := by
  constructor
  · rw [List.map_append, List.nodup_append_comm]
    simpa using ⟨fun b hb => hx _ hb rfl, h.1⟩
  · rw [List.map_append, List.nodup_append_comm]
    simpa using ⟨fun a ha => hy _ ha rfl, h.2⟩

end

/-- `later` knows all pairs that `ρ` knows. -/
structure Sub (ρ later : Renaming) : Prop where
  buckets : ρ.buckets ⊆ later.buckets
  objects : ρ.objects ⊆ later.objects

theorem Sub.refl (ρ : Renaming) : ρ.Sub ρ := ⟨fun _ h => h, fun _ h => h⟩

theorem Sub.trans {ρ later latest : Renaming} (h : ρ.Sub later) (h' : later.Sub latest) :
    ρ.Sub latest :=
  ⟨fun _ hp => h'.buckets (h.buckets hp), fun _ hp => h'.objects (h.objects hp)⟩

end Renaming

/-! ## Commands -/

/-- Commands that name partners, or identifiers that no store has handed out, and that
are the same otherwise. Uploads may cut the same bytes in different chunks. -/
inductive Command.Corresponds (ρ : Renaming) : Command → Command → Prop
  | headObject {bucket bucket' : BucketId} {id id' : ObjectId}
      (hbucket : Renaming.Named ρ.buckets bucket bucket')
      (hid : Renaming.Named ρ.objects id id') :
      Corresponds ρ (.headObject bucket id) (.headObject bucket' id')
  | getRange {bucket bucket' : BucketId} {id id' : ObjectId}
      (hbucket : Renaming.Named ρ.buckets bucket bucket')
      (hid : Renaming.Named ρ.objects id id') (offset length : Nat) :
      Corresponds ρ (.getRange bucket id offset length) (.getRange bucket' id' offset length)
  | putObject {bucket bucket' : BucketId} {parent parent' : Option ObjectId}
      {payload payload' : PayloadStream} {chunks chunks' : List Bytes}
      (hbucket : Renaming.Named ρ.buckets bucket bucket')
      (hparent : Option.Rel (Renaming.Named ρ.objects) parent parent')
      (owner : OwnerId) (attributes : Attributes)
      (hpayload : payload.drain = .complete chunks)
      (hpayload' : payload'.drain = .complete chunks')
      (hbytes : chunks.flatten = chunks'.flatten) :
      Corresponds ρ (.putObject ⟨bucket, owner, attributes, parent⟩ payload)
        (.putObject ⟨bucket', owner, attributes, parent'⟩ payload')
  | deleteObject {bucket bucket' : BucketId} {id id' : ObjectId}
      (hbucket : Renaming.Named ρ.buckets bucket bucket')
      (hid : Renaming.Named ρ.objects id id') :
      Corresponds ρ (.deleteObject bucket id) (.deleteObject bucket' id')
  | searchObjects {bucket bucket' : BucketId}
      (hbucket : Renaming.Named ρ.buckets bucket bucket') (filters : List SearchFilter) :
      Corresponds ρ (.searchObjects bucket filters) (.searchObjects bucket' filters)
  | getBucket {id id' : BucketId} (hid : Renaming.Named ρ.buckets id id') :
      Corresponds ρ (.getBucket id) (.getBucket id')
  | listBuckets (owner : OwnerId) : Corresponds ρ (.listBuckets owner) (.listBuckets owner)
  | putBucket (header : BucketHeader) : Corresponds ρ (.putBucket header) (.putBucket header)
  | deleteBucket {id id' : BucketId} (hid : Renaming.Named ρ.buckets id id') :
      Corresponds ρ (.deleteBucket id) (.deleteBucket id')

/-- Every command that corresponds to another one is complete, as that one is. -/
theorem Command.Corresponds.complete {ρ : Renaming} {c c' : Command} (h : c.Corresponds ρ c') :
    c.Complete ∧ c'.Complete := by
  cases h with
  | putObject hbucket hparent owner attributes hpayload hpayload' hbytes =>
    exact ⟨⟨_, hpayload⟩, ⟨_, hpayload'⟩⟩
  | _ => exact ⟨trivial, trivial⟩

/-! ## Answers -/

namespace Renaming

structure ObjectMetas (ρ : Renaming) (info info' : ObjectMeta) : Prop where
  id : (info.id, info'.id) ∈ ρ.objects
  bucket : (info.bucket, info'.bucket) ∈ ρ.buckets
  owner : info.owner = info'.owner
  size : info.size = info'.size
  attributes : info.attributes = info'.attributes

structure BucketMetas (ρ : Renaming) (info info' : BucketMeta) : Prop where
  id : (info.id, info'.id) ∈ ρ.buckets
  owner : info.owner = info'.owner
  policy : info.policy = info'.policy
  acl : info.acl = info'.acl
  attributes : info.attributes = info'.attributes

/-- The results of two commands are the same but for identifiers, which are partners. -/
def Results (ρ : Renaming) : (c c' : Command) → c.Answer → c'.Answer → Prop
  | .headObject .., .headObject .., info, info' => ρ.ObjectMetas info info'
  | .getRange .., .getRange .., data, data' => data = data'
  | .putObject .., .putObject .., id, id' => (id, id') ∈ ρ.objects
  | .deleteObject .., .deleteObject .., _, _ => True
  | .searchObjects .., .searchObjects .., ids, ids' =>
    List.Forall₂ (fun id id' => (id, id') ∈ ρ.objects) ids ids'
  | .getBucket .., .getBucket .., info, info' => ρ.BucketMetas info info'
  | .listBuckets .., .listBuckets .., ids, ids' =>
    List.Forall₂ (fun id id' => (id, id') ∈ ρ.buckets) ids ids'
  | .putBucket .., .putBucket .., id, id' => (id, id') ∈ ρ.buckets
  | .deleteBucket .., .deleteBucket .., _, _ => True
  | _, _, _, _ => False

/-- Two answers: results that are the same but for identifiers, or the same failure. -/
inductive Answers (ρ : Renaming) (c c' : Command) :
    Except BackendError c.Answer → Except BackendError c'.Answer → Prop
  | ok {result : c.Answer} {result' : c'.Answer} (h : ρ.Results c c' result result') :
      Answers ρ c c' (.ok result) (.ok result')
  | error (cause : BackendError) : Answers ρ c c' (.error cause) (.error cause)

/-- The renaming once two answers have come: it knows what has been created. -/
def learn (ρ : Renaming) : (c c' : Command) → Option (Except BackendError c.Answer) →
    Option (Except BackendError c'.Answer) → Renaming
  | .putObject .., .putObject .., some (.ok id), some (.ok id') =>
    { ρ with objects := ρ.objects ++ [(id, id')] }
  | .putBucket .., .putBucket .., some (.ok id), some (.ok id') =>
    { ρ with buckets := ρ.buckets ++ [(id, id')] }
  | _, _, _, _ => ρ

variable {ρ later : Renaming} {c c' : Command}

theorem ObjectMetas.mono (hsub : ρ.Sub later) {info info' : ObjectMeta}
    (h : ρ.ObjectMetas info info') : later.ObjectMetas info info' :=
  { h with id := hsub.objects h.id, bucket := hsub.buckets h.bucket }

theorem BucketMetas.mono (hsub : ρ.Sub later) {info info' : BucketMeta}
    (h : ρ.BucketMetas info info') : later.BucketMetas info info' :=
  { h with id := hsub.buckets h.id }

theorem Results.mono (hsub : ρ.Sub later) {result : c.Answer} {result' : c'.Answer}
    (h : ρ.Results c c' result result') : later.Results c c' result result' := by
  cases c <;> cases c' <;> first
    | exact h.elim
    | exact ObjectMetas.mono hsub h
    | exact BucketMetas.mono hsub h
    | exact hsub.objects h
    | exact hsub.buckets h
    | exact List.Forall₂.imp (fun _ _ hp => hsub.objects hp) h
    | exact List.Forall₂.imp (fun _ _ hp => hsub.buckets hp) h
    | exact h

theorem Answers.mono (hsub : ρ.Sub later) {answer : Except BackendError c.Answer}
    {answer' : Except BackendError c'.Answer} (h : ρ.Answers c c' answer answer') :
    later.Answers c c' answer answer' := by
  cases h with
  | ok hresult => exact .ok (hresult.mono hsub)
  | error cause => exact .error cause

/-- Nothing that is known is forgotten. -/
theorem sub_learn (ρ : Renaming) (c c' : Command) (answer : Option (Except BackendError c.Answer))
    (answer' : Option (Except BackendError c'.Answer)) :
    ρ.Sub (ρ.learn c c' answer answer') := by
  unfold learn
  split
  · exact ⟨fun _ h => h, fun _ h => List.mem_append_left _ h⟩
  · exact ⟨fun _ h => List.mem_append_left _ h, fun _ h => h⟩
  · exact .refl ρ

end Renaming
end ObjectGateway
