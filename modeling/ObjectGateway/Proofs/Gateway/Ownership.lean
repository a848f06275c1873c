import ObjectGateway.Proofs.Gateway.Desk
import ObjectGateway.Proofs.Memory.Owned
/-!
# Buckets of others

Clients make requests, write to the writers they get and close them, and read from the readers
they get. On two backends that hold the same of the gateway's owner they are told the same but
for identifiers, whatever there is of others, as long as they go by the names of buckets. What
there is of others is left alone.
-/
namespace ObjectGateway

open List (Forall₂)
open Memory (Store StoredBucket SameBucket)
open Config (BackendKind)

-- ---------------------------------------------------------------------------
-- What clients are told
-- ---------------------------------------------------------------------------

namespace Renaming

section

variable {α β : Type}

/-- The same failures but for the identifiers in their paths. -/
structure Errors (ρ : Renaming) (e e' : FsError) : Prop where
  path : ρ.Texts e.path e'.path
  same : e'.withPath e.path = e

/-- Operations end alike: with results that are related, or with the same failure. -/
inductive Ends (ρ : Renaming) (Q : α → β → Prop) : Except FsError α → Except FsError β → Prop
  | ok {a : α} {b : β} (h : Q a b) : Ends ρ Q (.ok a) (.ok b)
  | error {e e' : FsError} (h : ρ.Errors e e') : Ends ρ Q (.error e) (.error e')

end

structure Readers (ρ : Renaming) (r r' : Reader) : Prop where
  entry : ρ.ObjectEntries r.entry r'.entry
  path : ρ.Texts r.path r'.path

structure Writers (ρ : Renaming) (w w' : Writer) : Prop where
  bucket : (w.bucket, w'.bucket) ∈ ρ.buckets
  name : w.name = w'.name
  path : w.path = w'.path
  staging : w.staging = w'.staging

inductive Responses (ρ : Renaming) : Response → Response → Prop
  | entries {items items' : List Entry} (h : Forall₂ ρ.Entries items items') :
      Responses ρ (.entries items) (.entries items')
  | reader {r r' : Reader} (h : ρ.Readers r r') : Responses ρ (.reader r) (.reader r')
  | writer {w w' : Writer} (h : ρ.Writers w w') : Responses ρ (.writer w) (.writer w')
  | done : Responses ρ .done .done

inductive Outcomes (ρ : Renaming) : Desk.Outcome → Desk.Outcome → Prop
  | answered {r r' : Except FsError Response} (h : ρ.Ends ρ.Responses r r') :
      Outcomes ρ (.served (.answered r)) (.served (.answered r'))
  | wrote {r r' : Except FsError Unit} (h : ρ.Ends Eq r r') :
      Outcomes ρ (.served (.wrote r)) (.served (.wrote r'))
  | closed {r r' : Except FsError ObjectId}
      (h : ρ.Ends (fun id id' => (id, id') ∈ ρ.objects) r r') :
      Outcomes ρ (.served (.closed r)) (.served (.closed r'))
  | dropped : Outcomes ρ (.served .dropped) (.served .dropped)
  | noWriter : Outcomes ρ (.served .noWriter) (.served .noWriter)
  | read {r r' : Except FsError ReadResult} (h : ρ.Ends Eq r r') : Outcomes ρ (.read r) (.read r')
  | noReader : Outcomes ρ .noReader .noReader

end Renaming

-- ---------------------------------------------------------------------------
-- Going by the names of buckets
-- ---------------------------------------------------------------------------

/-- Clients go by the names of buckets. Only the object that they look up may be one that neither
side has handed out. -/
def Manner.byName : Manner where
  bucket ρ id id' := (id, id') ∈ ρ.buckets
  object ρ := Renaming.Spoken ρ.objects
  search _ := True
  texts := Renaming.Texts
  names _ := Eq
  bucket_of_mem := id
  spoken_bucket := @Renaming.Spoken.bucket
  object_of_mem := @Renaming.Spoken.object
  spoken_object := id
  search_of_root _ := trivial
  texts_of_plain := id
  texts_of_names := by
    rintro ρ text _ rfl
    exact .same text
  texts_mono hsub h := h.mono hsub
  names_mono _ := id

namespace Renaming

variable {ρ : Renaming}

theorem Ends.of_byName {α β : Type} {Q Q' : α → β → Prop} {r : Except FsError α}
    {r' : Except FsError β} (h : Manner.byName.Ends ρ Q r r') (hQ : ∀ a b, Q a b → Q' a b) :
    ρ.Ends Q' r r' := by
  cases h with
  | ok h => exact .ok (hQ _ _ h)
  | error h => exact .error ⟨h.path, h.same⟩

theorem Responses.of_byName {r r' : Response} (h : Manner.byName.Responses ρ r r') :
    ρ.Responses r r' := by
  cases h with
  | entries h => exact .entries h
  | reader h => exact .reader ⟨h.entry, h.path⟩
  | writer h => exact .writer ⟨h.bucket, h.name, h.path, h.staging⟩
  | done => exact .done

theorem Outcomes.of_byName {o o' : Desk.Outcome} (h : Manner.byName.Outcomes ρ o o') :
    ρ.Outcomes o o' := by
  cases h with
  | answered h => exact .answered (.of_byName h fun _ _ hr => .of_byName hr)
  | wrote h => exact .wrote (.of_byName h fun _ _ => id)
  | closed h => exact .closed (.of_byName h fun _ _ => id)
  | dropped => exact .dropped
  | noWriter => exact .noWriter
  | read h => exact .read (.of_byName h fun _ _ => id)
  | noReader => exact .noReader

/-- Object segments that are used side by side: the same text, which does not read as an
identifier that only one side has handed out, or texts that read as partners. -/
inductive Segments (pairs : List (ObjectId × ObjectId)) : String → String → Prop
  | same {text : String} (h : ∀ id, Id.parse? text = some id → Spoken pairs id id) :
      Segments pairs text text
  | partners {id id' : ObjectId} {text text' : String} (h : (id, id') ∈ pairs)
      (hread : Id.parse? text = some id) (hread' : Id.parse? text' = some id') :
      Segments pairs text text'

theorem Segments.beside {o o' : String} (h : Segments ρ.objects o o') :
    Manner.byName.ObjectSegments ρ o o' := by
  cases h with
  | partners h hread hread' =>
    exact .id hread hread' (by simpa using Texts.object h hread hread' "") (.inl h)
  | same h =>
    cases hread : (Id.parse? o : Option ObjectId) with
    | none => exact .name hread
    | some id => exact .id hread hread (.same o) (h id hread)

end Renaming

/-- The bucket of the path, if it has one, is given by its name. -/
def FsPath.ByName (path : FsPath) : Prop :=
  ∀ b, path.bucket? = some b → (Id.parse? b : Option BucketId) = none

/-- Paths that are the same but for the identifier of an object, their buckets being given by
name. -/
inductive FsPath.Alike (pairs : List (ObjectId × ObjectId)) : FsPath → FsPath → Prop
  | root : Alike pairs .root .root
  | bucket {b : String} (hb : (Id.parse? b : Option BucketId) = none) :
      Alike pairs (.bucket b) (.bucket b)
  | object {b o o' : String} (hb : (Id.parse? b : Option BucketId) = none)
      (ho : Renaming.Segments pairs o o') : Alike pairs (.object b o) (.object b o')

/-- Requests that are the same but for identifiers of objects. Only the methods that look an
object up read an object segment as an identifier. -/
inductive Request.Alike (pairs : List (ObjectId × ObjectId)) : Request → Request → Prop
  | stat {path path' : FsPath} (h : path.Alike pairs path') : Alike pairs (.stat path) (.stat path')
  | get {path path' : FsPath} (h : path.Alike pairs path') : Alike pairs (.get path) (.get path')
  | other {r : Request} (hstat : r.method ≠ .stat) (hget : r.method ≠ .get) (h : r.path.ByName) :
      Alike pairs r r

/-- Any request that goes by names is the same on both sides. -/
theorem Request.Alike.of_names {pairs : List (ObjectId × ObjectId)} {r : Request}
    (h : r.path.ByName)
    (hobject : ∀ b o id, r.path = .object b o → Id.parse? o = some id →
      Renaming.Spoken pairs id id) : Request.Alike pairs r r := by
  have hpath : r.path.Alike pairs r.path := by
    generalize r.path = path at h hobject
    cases path with
    | root => exact .root
    | bucket b => exact .bucket (h b rfl)
    | object b o => exact .object (h b rfl) (.same fun id => hobject b o id rfl)
  cases r with
  | stat path => exact .stat hpath
  | get path => exact .get hpath
  | _ => exact .other nofun nofun h

/-- A text behind another. -/
theorem Renaming.Texts.prepend {ρ : Renaming} {text text' : String} (h : ρ.Texts text text')
    (front : String) : ρ.Texts (front ++ text) (front ++ text') := by
  cases h with
  | same => exact .same _
  | bucket h hread hread' front' =>
    rw [← String.append_assoc, ← String.append_assoc]
    exact .bucket h hread hread' _
  | object h hread hread' front' =>
    rw [← String.append_assoc, ← String.append_assoc]
    exact .object h hread hread' _

theorem Manner.byName_bucketSegments {ρ : Renaming} {b : String}
    (hb : (Id.parse? b : Option BucketId) = none) : Manner.byName.BucketSegments ρ b b where
  reads := .name hb
  text := .same _
  below h := h.prepend _
  named _ := rfl

theorem FsPath.Alike.beside {ρ : Renaming} {path path' : FsPath}
    (h : path.Alike ρ.objects path') :
    path.Beside Manner.byName ρ (Manner.byName.ObjectSegments ρ) path' := by
  cases h with
  | root => exact .root
  | bucket hb => exact .bucket (Manner.byName_bucketSegments hb)
  | object hb ho => exact .object (Manner.byName_bucketSegments hb) ho.beside

theorem FsPath.ByName.beside {ρ : Renaming} {path : FsPath} (h : path.ByName) :
    path.Beside Manner.byName ρ Eq path := by
  cases path with
  | root => exact .root
  | bucket b => exact .bucket (Manner.byName_bucketSegments (h b rfl))
  | object b o => exact .object (Manner.byName_bucketSegments (h b rfl)) rfl

theorem Request.Alike.beside {ρ : Renaming} {r r' : Request} (h : r.Alike ρ.objects r') :
    r.Beside Manner.byName ρ r' := by
  cases h with
  | stat h => exact .lookup (.inl rfl) h.beside
  | get h => exact .lookup (.inr rfl) h.beside
  | other hstat hget h =>
    by_cases hmake : r.method = .mkdir
    · cases r with
      | mkdir path => exact .make path
      | _ => cases hmake
    · have hother := Request.Beside.other hstat hget hmake (h.beside (ρ := ρ))
      rwa [Request.withPath_path] at hother

namespace Desk

variable {σ : Type}

/-- Steps that are taken side by side: requests that are the same but for identifiers, or the
same step. -/
inductive Event.Alike (pairs : List (ObjectId × ObjectId)) : Event → Event → Prop
  | request (ctx : Context) (now : Int) {r r' : Request} (h : r.Alike pairs r') :
      Alike pairs (.serve (.request ctx now r)) (.serve (.request ctx now r'))
  | write (number : Nat) (data : Bytes) (offset : Int) :
      Alike pairs (.serve (.write number data offset)) (.serve (.write number data offset))
  | close (ctx : Context) (now : Int) (number : Nat) :
      Alike pairs (.serve (.close ctx now number)) (.serve (.close ctx now number))
  | drop (number : Nat) : Alike pairs (.serve (.drop number)) (.serve (.drop number))
  | read (ctx : Context) (number : Nat) (buffer : Bytes) (offset : Int) :
      Alike pairs (.read ctx number buffer offset) (.read ctx number buffer offset)

theorem Event.Alike.beside {ρ : Renaming} {e e' : Event} (h : e.Alike ρ.objects e') :
    e.Beside (Request.Beside Manner.byName ρ) e' := by
  cases h with
  | request ctx now h => exact .request ctx now h.beside
  | write number data offset => exact .write number data offset
  | close ctx now number => exact .close ctx now number
  | drop number => exact .drop number
  | read ctx number buffer offset => exact .read ctx number buffer offset

/-- Two runs side by side, with the objects that are partners and what clients were told. Where
a writer is asked for, the directory for uploads opens on both hosts or fails on both: what is
stored is not in its way. -/
inductive SideBySide (b : Backend (World σ)) (settings : Settings)
    (pairs : List (ObjectId × ObjectId)) (start start' : Desk σ) :
    List (ObjectId × ObjectId) → List (Outcome × Outcome) → Desk σ → Desk σ → Prop
  | start : SideBySide b settings pairs start start' pairs [] start start'
  | step {known : List (ObjectId × ObjectId)} {log : List (Outcome × Outcome)} {d d' : Desk σ}
      (h : SideBySide b settings pairs start start' known log d d') {e e' : Event}
      (he : e.Alike known e')
      (hstaging : e.Opens → d.staging settings = d'.staging settings) :
      SideBySide b settings pairs start start'
        (known ++ (d.step b settings e).1.created (d'.step b settings e').1)
        (log ++ [((d.step b settings e).1, (d'.step b settings e').1)])
        (d.step b settings e).2 (d'.step b settings e').2

end Desk

-- ---------------------------------------------------------------------------
-- Where runs start
-- ---------------------------------------------------------------------------

/-- Two worlds of a backend hold the same buckets of one owner, next to any of others. They
have been told alike to answer no call, and to fail for the heads of the same objects. -/
structure Agree {k : BackendKind} (owner : OwnerId) (w w' : World k.Store) (m m' : Store) :
    Prop where
  stores : k.Stores w m
  stores' : k.Stores w' m'
  sound : m.Sound w.host.ids
  sound' : m'.Sound w'.host.ids
  owned : (m.ownedBy owner).buckets = (m'.ownedBy owner).buckets
  stalled : k.Stalled w ↔ k.Stalled w'
  answers : ∀ id, k.Answers w id ↔ k.Answers w' id

namespace Agree

variable {k : BackendKind} {owner : OwnerId} {w w' : World k.Store} {m m' : Store}

/-- Runs of clients who go by names keep to the buckets of the owner. -/
def origins (h : Agree owner w w' m m') : Origins k where
  owner := owner
  manner := .byName
  part := (·.ownedBy owner)
  left := w
  right := w'
  beside := Memory.foreignSurroundings owner (m.others owner) _
  beside' := Memory.foreignSurroundings owner (m'.others owner) _
  healthy h := h.ownedBy owner
  issued := h.sound.issued_of_foreign
  issued' := h.sound'.issued_of_foreign
  clear_bucket hclear hid := hclear.buckets _ hid
  clear_object _ _ := ⟨id, id⟩
  stalled := h.stalled
  answers := h.answers

theorem neighbours (h : Agree owner w w' m m') :
    Neighbours h.origins (Memory.keys (m.ownedBy owner).buckets) w w' m m' where
  left := ⟨h.stores, h.sound, rfl, .refl _, Iff.rfl, fun _ => Iff.rfl⟩
  right := ⟨h.stores', h.sound', rfl, .refl _, Iff.rfl, fun _ => Iff.rfl⟩
  paired := (h.sound.ownedBy owner).paired (h.sound'.ownedBy owner) h.owned
  names := (m.ownedBy owner).goesBy_keys
  clear := by
    refine ⟨fun p hp => ?_, fun _ _ => ⟨id, id⟩⟩
    obtain ⟨b, hb, rfl⟩ := List.mem_map.mp hp
    exact ⟨not_not.mpr (h.sound.spared hb), not_not.mpr (h.sound'.spared (h.owned ▸ hb))⟩
  generated := Memory.generated_keys _ _ _

end Agree

-- ---------------------------------------------------------------------------
-- Whole runs
-- ---------------------------------------------------------------------------

namespace Desk

variable {k : BackendKind} {s : Origins k} {ρ : Renaming} {settings : Settings}
  {d d' : Desk k.Store}

namespace SideBySide

variable {pairs known : List (ObjectId × ObjectId)} {log : List (Outcome × Outcome)}
  {start start' : Desk k.Store}

theorem extends_start (h : SideBySide k.backend settings pairs start start' known log d d') :
    d.session.world.host.ids.Extends start.session.world.host.ids ∧
      d'.session.world.host.ids.Extends start'.session.world.host.ids := by
  induction h with
  | start => exact ⟨.refl _, .refl _⟩
  | step _ _ _ ih =>
    exact ⟨(step_extends _ settings _).trans ih.1, (step_extends _ settings _).trans ih.2⟩

/-- Runs that start as twins end as twins, and clients have been told the same. -/
theorem twins (h : SideBySide k.backend settings ρ.objects start start' known log d d')
    (hs : s.owner = settings.owner) (hmanner : s.manner = .byName) (hstart : Twins s ρ start start')
    (hleft : Unharmed s.left d.session.world.host.ids)
    (hright : Unharmed s.right d'.session.world.host.ids) :
    ∃ later : Renaming, ρ.Sub later ∧ later.objects = known ∧
      (∀ o ∈ log, s.manner.Outcomes later o.1 o.2) ∧ Twins s later d d' := by
  induction h with
  | start => exact ⟨ρ, .refl ρ, rfl, fun _ ho => absurd ho List.not_mem_nil, hstart⟩
  | @step known log d d' _ e e' he hstaging ih =>
    obtain ⟨current, hsub, rfl, hlog, htwins⟩ :=
      ih (hleft.before (d.step_extends settings e)) (hright.before (d'.step_extends settings e'))
    obtain ⟨later, hsub', hobjects, houtcome, hlater⟩ :=
      htwins.step hs (hmanner ▸ he.beside) hstaging hleft hright
    refine ⟨later, hsub.trans hsub', hobjects, fun o ho => ?_, hlater⟩
    obtain ho | rfl := List.mem_append.mp ho |>.imp_right List.mem_singleton.mp
    · exact (hlog o ho).mono hsub'
    · exact houtcome

end SideBySide

/-- What two runs come to that start with the same of an owner: clients have been told the same
but for identifiers, the owner still has the same but for identifiers, and what there is of
others is what there was. Only identifiers that have been generated meanwhile differ. -/
structure Isolated (owner : OwnerId) (ρ : Renaming) (start start' : World k.Store)
    (m m' : Store) (log : List (Outcome × Outcome)) (left right : World k.Store) : Prop where
  generated : ρ.Generated start.host.ids start'.host.ids
  oneBuckets : Renaming.OneToOne ρ.buckets
  oneObjects : Renaming.OneToOne ρ.objects
  outcomes : ∀ o ∈ log, ρ.Outcomes o.1 o.2
  ends : ∃ n n', k.Stores left n ∧ k.Stores right n' ∧
    Forall₂ (SameBucket ρ) (n.ownedBy owner).buckets (n'.ownedBy owner).buckets ∧
    n.others owner = m.others owner ∧ n'.others owner = m'.others owner

/-- Clients that go by the names of buckets are not disturbed by buckets of other owners, and
do not disturb them. -/
theorem owners_isolated {w w' : World k.Store} {m m' : Store}
    (hagree : Agree settings.owner w w' m m') {known : List (ObjectId × ObjectId)}
    {log : List (Outcome × Outcome)}
    (h : SideBySide k.backend settings (Memory.keys (m.ownedBy settings.owner).buckets).objects
      ⟨⟨w, []⟩, []⟩ ⟨⟨w', []⟩, []⟩ known log d d')
    (hleft : Unharmed w d.session.world.host.ids)
    (hright : Unharmed w' d'.session.world.host.ids) :
    ∃ ρ : Renaming, ρ.objects = known ∧
      Isolated settings.owner ρ w w' m m' log d.session.world d'.session.world := by
  have hstart : Twins hagree.origins (Memory.keys (m.ownedBy settings.owner).buckets)
      ⟨⟨w, []⟩, []⟩ ⟨⟨w', []⟩, []⟩ := ⟨⟨m, m', hagree.neighbours⟩, .nil, .nil⟩
  obtain ⟨ρ, -, hobjects, houtcomes, ⟨n, n', hworlds⟩, -, -⟩ := h.twins rfl rfl hstart hleft hright
  exact ⟨ρ, hobjects,
    { generated := hworlds.generated
      oneBuckets := hworlds.paired.oneBuckets
      oneObjects := hworlds.paired.oneObjects
      outcomes := fun o ho => .of_byName (houtcomes o ho)
      ends := ⟨n, n', hworlds.left.stores, hworlds.right.stores, hworlds.paired.buckets,
        hworlds.left.rest, hworlds.right.rest⟩ }⟩

/-- The bucket `b` of somebody else. -/
def foreignBucket : World Store :=
  (Memory.serve Session.emptyWorld
    (.putBucket { owner := ⟨7⟩, attributes := .named Attributes.nameKey "b" 0 })).after

/-- It has an object `f` in it. -/
def foreignWorld : World Store :=
  (Memory.serve foreignBucket (.putObject
    { bucket := ⟨0⟩, owner := ⟨7⟩, attributes := .named Attributes.fileNameKey "f" 0 }
    (.ofChunks [[9]]))).after

theorem agree_foreignWorld :
    Agree (k := .memory) Session.refusing.owner Session.emptyWorld foreignWorld {}
      foreignWorld.store where
  stores := ⟨⟨rfl, rfl⟩, rfl⟩
  stores' := ⟨⟨rfl, rfl⟩, rfl⟩
  sound := by constructor <;> simp
  sound' := by
    have hempty : Session.emptyWorld.store.Sound Session.emptyWorld.host.ids := by
      constructor <;> simp [Session.emptyWorld]
    have hbucket : foreignBucket.store.Sound foreignBucket.host.ids :=
      Memory.serve_sound hempty _ (IdSupply.distinct_counting (n := 1) (by decide))
    exact Memory.serve_sound hbucket _ (IdSupply.distinct_counting (n := 2) (by decide))
  owned := by decide +kernel
  stalled := Iff.rfl
  answers _ := Iff.rfl

/-- The owner makes a bucket `b`, puts an object `f` into it and reads what has been put. -/
theorem sideBySide_foreignWorld :
    ∃ known log d d', SideBySide BackendKind.memory.backend Session.refusing []
        ⟨⟨Session.emptyWorld, []⟩, []⟩ ⟨⟨foreignWorld, []⟩, []⟩ known log d d' ∧
      known = [(⟨1⟩, ⟨3⟩)] ∧ log.length = 6 ∧ d.session.world.host.ids.drawn ≤ 2 ^ 128 ∧
      d'.session.world.host.ids.drawn ≤ 2 ^ 128 := by
  have halike : ∀ (r : Request) pairs, r.path = .bucket "b" ∨ r.path = .object "b" "f" →
      Request.Alike pairs r r := by
    have hbucket : (Id.parse? "b" : Option BucketId) = none := by decide +kernel
    have hobject : (Id.parse? "f" : Option ObjectId) = none := by decide +kernel
    intro r pairs hpath
    refine .of_names (fun b hb => ?_) fun b o id ho hread => ?_
    · rcases hpath with h | h <;> rw [h] at hb <;> cases hb <;> exact hbucket
    · rcases hpath with h | h <;> rw [h] at ho <;> cases ho
      rw [hobject] at hread
      cases hread
  have hstart : SideBySide BackendKind.memory.backend Session.refusing []
      ⟨⟨Session.emptyWorld, []⟩, []⟩ ⟨⟨foreignWorld, []⟩, []⟩ [] [] _ _ := .start
  have hmade := hstart.step (.request {} 0 (halike (.mkdir (.bucket "b")) _ (.inl rfl)))
    (by simp [Event.Opens, Request.method])
  have hopened := hmade.step (.request {} 0 (halike (.put (.object "b" "f")) _ (.inr rfl)))
    fun _ => rfl
  have hwritten := hopened.step (.write 0 [1, 2] 3) (by simp [Event.Opens])
  have hclosed := hwritten.step (.close {} 0 0) (by simp [Event.Opens])
  have hfound := hclosed.step (.request {} 0 (halike (.get (.object "b" "f")) _ (.inr rfl)))
    (by simp [Event.Opens, Request.method])
  have hread := hfound.step (.read {} 0 [0, 0, 0] 3) (by simp [Event.Opens])
  exact ⟨_, _, _, _, hread, by decide +kernel, rfl, by decide +kernel, by decide +kernel⟩

theorem owners_isolated_sameNames :
    Agree (k := .memory) Session.refusing.owner Session.emptyWorld foreignWorld {}
        foreignWorld.store ∧
      ∃ log d d', SideBySide BackendKind.memory.backend Session.refusing []
          ⟨⟨Session.emptyWorld, []⟩, []⟩ ⟨⟨foreignWorld, []⟩, []⟩ [(⟨1⟩, ⟨3⟩)] log d d' ∧
        log.length = 6 ∧ Unharmed (k := .memory) Session.emptyWorld d.session.world.host.ids ∧
        Unharmed (k := .memory) foreignWorld d'.session.world.host.ids ∧
        ∃ ρ : Renaming, ρ.objects = [(⟨1⟩, ⟨3⟩)] ∧
          Isolated (k := .memory) Session.refusing.owner ρ Session.emptyWorld foreignWorld {}
            foreignWorld.store log d.session.world d'.session.world := by
  obtain ⟨_, log, d, d', hrun, rfl, hlength, hfew, hfew'⟩ := sideBySide_foreignWorld
  obtain ⟨hids, hids'⟩ := hrun.extends_start (k := .memory)
  have hleft : Unharmed (k := .memory) Session.emptyWorld d.session.world.host.ids :=
    ⟨IdSupply.distinct_of_counting hids rfl hfew, fun _ _ _ => List.not_mem_nil⟩
  have hright : Unharmed (k := .memory) foreignWorld d'.session.world.host.ids :=
    ⟨IdSupply.distinct_of_counting hids' rfl hfew', fun _ _ _ => List.not_mem_nil⟩
  exact ⟨agree_foreignWorld, log, d, d', hrun, hlength, hleft, hright,
    owners_isolated agree_foreignWorld hrun hleft hright⟩

end Desk
end ObjectGateway
