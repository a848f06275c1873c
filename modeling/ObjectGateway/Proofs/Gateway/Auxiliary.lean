import ObjectGateway.Proofs.Backend.WriteOnce
import ObjectGateway.Proofs.Gateway.Desk
import ObjectGateway.Proofs.Gateway.Effects
import ObjectGateway.Proofs.Memory.Rooted
/-!
# Auxiliary objects

Objects that have a parent are not seen by clients who go by the names of objects. On two
backends that hold the same but for such objects these clients are told the same but for
identifiers, whatever the objects are called and wherever they are enumerated, and no request
to remove an object takes one of them out.
-/
namespace ObjectGateway

open List (Forall₂)
open Memory (Store StoredBucket StoredObject SameBucket)
open Config (BackendKind)

-- ---------------------------------------------------------------------------
-- Going by the names of objects
-- ---------------------------------------------------------------------------

/-- Texts that are the same piece by piece, but for the texts of partners. -/
inductive Renaming.Spellings (ρ : Renaming) : String → String → Prop
  | same (text : String) : Spellings ρ text text
  | bucket {id id' : BucketId} {text text' : String} (h : (id, id') ∈ ρ.buckets)
      (hread : Id.parse? text = some id) (hread' : Id.parse? text' = some id') :
      Spellings ρ text text'
  | object {id id' : ObjectId} {text text' : String} (h : (id, id') ∈ ρ.objects)
      (hread : Id.parse? text = some id) (hread' : Id.parse? text' = some id') :
      Spellings ρ text text'
  | append {front front' back back' : String} (h : Spellings ρ front front')
      (h' : Spellings ρ back back') : Spellings ρ (front ++ back) (front' ++ back')

namespace Renaming.Spellings

variable {ρ later : Renaming} {text text' : String}

theorem mono (hsub : ρ.Sub later) (h : ρ.Spellings text text') : later.Spellings text text' := by
  induction h with
  | same text => exact .same text
  | bucket h hread hread' => exact .bucket (hsub.buckets h) hread hread'
  | object h hread hread' => exact .object (hsub.objects h) hread hread'
  | append _ _ ih ih' => exact .append ih ih'

theorem of_texts (h : ρ.Texts text text') : ρ.Spellings text text' := by
  cases h with
  | same => exact .same _
  | bucket h hread hread' front => exact .append (.same front) (.bucket h hread hread')
  | object h hread hread' front => exact .append (.same front) (.object h hread hread')

end Renaming.Spellings

/-- Clients go by the names of objects, and by names or identifiers of buckets. -/
def Manner.byObjectName : Manner where
  bucket ρ := Renaming.Spoken ρ.buckets
  object ρ id id' := (id, id') ∈ ρ.objects
  search filters := .root ∈ filters
  texts := Renaming.Spellings
  names := Renaming.Spellings
  bucket_of_mem := @Renaming.Spoken.bucket
  spoken_bucket := id
  object_of_mem := id
  spoken_object := @Renaming.Spoken.object
  search_of_root := id
  texts_of_plain := .of_texts
  texts_of_names := id
  texts_mono hsub h := h.mono hsub
  names_mono hsub h := h.mono hsub

/-- Bucket segments that clients use side by side: the same text, or texts that read as partners
they know. The same text does not read as a new identifier, if not as one that is known to be
its own partner. -/
inductive SegmentSpelled (known : List (BucketId × BucketId)) (new : BucketId → Prop) :
    String → String → Prop
  | same {b : String} (h : ∀ id, Id.parse? b = some id → (id, id) ∈ known ∨ ¬new id) :
      SegmentSpelled known new b b
  | partners {id id' : BucketId} {b b' : String} (h : (id, id') ∈ known)
      (hread : Id.parse? b = some id) (hread' : Id.parse? b' = some id') :
      SegmentSpelled known new b b'

/-- Paths that are the same but for the spelling of their buckets. No object segment reads as an
identifier. -/
inductive FsPath.Spelled (known : List (BucketId × BucketId)) (new : BucketId → Prop) :
    FsPath → FsPath → Prop
  | root : Spelled known new .root .root
  | bucket {b b' : String} (hb : SegmentSpelled known new b b') :
      Spelled known new (.bucket b) (.bucket b')
  | object {b b' o : String} (hb : SegmentSpelled known new b b')
      (ho : (Id.parse? o : Option ObjectId) = none) :
      Spelled known new (.object b o) (.object b' o)

/-- Requests that are the same but for the spelling of buckets. The name of a bucket that is to
be made is the same. -/
inductive Request.Spelled (known : List (BucketId × BucketId)) (new : BucketId → Prop) :
    Request → Request → Prop
  | make (path : FsPath) : Spelled known new (.mkdir path) (.mkdir path)
  | other {r : Request} {path : FsPath} (hmake : r.method ≠ .mkdir)
      (hpath : r.path.Spelled known new path) : Spelled known new r (r.withPath path)

/-- A request whose segments are names, or an identifier of a bucket that is not new, can be made
by both clients as it is. -/
theorem Request.Spelled.refl {known : List (BucketId × BucketId)} {new : BucketId → Prop}
    {r : Request}
    (hbucket : ∀ b id, r.path.bucket? = some b → Id.parse? b = some id →
      (id, id) ∈ known ∨ ¬new id)
    (hobject : ∀ b o, r.path = .object b o → (Id.parse? o : Option ObjectId) = none) :
    r.Spelled known new r := by
  have hpath : r.path.Spelled known new r.path := by
    generalize r.path = path at hbucket hobject
    cases path with
    | root => exact .root
    | bucket b => exact .bucket (.same fun id => hbucket b id rfl)
    | object b o => exact .object (.same fun id => hbucket b id rfl) (hobject b o rfl)
  by_cases hmake : r.method = .mkdir
  · cases r with
    | mkdir path => exact .make path
    | _ => cases hmake
  · have hother := Request.Spelled.other hmake hpath
    rwa [Request.withPath_path] at hother

section

variable {ρ : Renaming} {known : List (BucketId × BucketId)} {new : BucketId → Prop}

theorem SegmentSpelled.beside {b b' : String} (h : SegmentSpelled known new b b')
    (hknown : known ⊆ ρ.buckets) (hold : ∀ id, ¬new id → Renaming.Spoken ρ.buckets id id) :
    Manner.byObjectName.BucketSegments ρ b b' := by
  have hspelled : ρ.Spellings b b' := by
    cases h with
    | same => exact .same b
    | partners h hread hread' => exact .bucket (hknown h) hread hread'
  refine ⟨?_, .append (.same "/") hspelled, fun ho => ?_, fun o => ?_⟩
  · cases h with
    | partners h hread hread' => exact .id hread hread' (.inl (hknown h))
    | same h =>
      cases hread : (Id.parse? b : Option BucketId) with
      | none => exact .name hread
      | some id =>
        exact .id hread hread ((h id hread).elim (fun hmem => .inl (hknown hmem)) (hold id))
  · exact .append (.append (.append (.same "/") hspelled) (.same "/")) (.of_texts ho)
  · exact .append (.append (.append (.same "/") hspelled) (.same "/")) (.same o)

theorem FsPath.Spelled.beside {S : String → String → Prop} {path path' : FsPath}
    (h : path.Spelled known new path') (hknown : known ⊆ ρ.buckets)
    (hold : ∀ id, ¬new id → Renaming.Spoken ρ.buckets id id)
    (hS : ∀ o : String, (Id.parse? o : Option ObjectId) = none → S o o) :
    path.Beside Manner.byObjectName ρ S path' := by
  cases h with
  | root => exact .root
  | bucket hb => exact .bucket (hb.beside hknown hold)
  | object hb ho => exact .object (hb.beside hknown hold) (hS _ ho)

theorem Request.Spelled.beside {r r' : Request} (h : r.Spelled known new r')
    (hknown : known ⊆ ρ.buckets) (hold : ∀ id, ¬new id → Renaming.Spoken ρ.buckets id id) :
    r.Beside Manner.byObjectName ρ r' := by
  cases h with
  | make path => exact .make path
  | other hmake hpath =>
    by_cases hlookup : r.method = .stat ∨ r.method = .get
    · exact .lookup hlookup (hpath.beside hknown hold fun _ ho => .name ho)
    · obtain ⟨hstat, hget⟩ := not_or.mp hlookup
      exact .other hstat hget hmake (hpath.beside hknown hold fun _ _ => rfl)

end

-- ---------------------------------------------------------------------------
-- Removals
-- ---------------------------------------------------------------------------

namespace Memory

variable {m left : Store} {b : StoredBucket} {o : StoredObject}

/-- Losing a root object leaves all auxiliary objects. -/
theorem Store.LosesObject.auxiliary (h : m.LosesObject b o left) (ho : o.parent = none) :
    left.auxiliary = m.auxiliary := by
  obtain ⟨front, back, hobjects, front', back', hsplit, hleft⟩ := h
  have hsame : { b with objects := front ++ back }.auxiliary = b.auxiliary := by
    simp [StoredBucket.auxiliary, hobjects, ho]
  simp only [Store.auxiliary, hsplit, hleft, List.map_append, List.map_cons, hsame]

/-- Objects that are found by a name are root objects. -/
theorem StoredBucket.parent_of_named {name : String} (h : b.named? name = some o) :
    o.parent = none := by
  have hroot := List.find?_some h
  simp only [List.all_cons, Bool.and_eq_true] at hroot
  exact Option.isNone_iff_eq_none.mp hroot.1

end Memory

def Request.RemovesObject (r : Request) : Prop :=
  ∃ b o, r = .remove (.object b o) ∨ r = .rmdir (.object b o)

/-- However a request goes that asks to remove an object, all auxiliary objects are still
there. -/
theorem Gateway.dispatch_spares_auxiliary {k : BackendKind} {w : World k.Store} {m : Store}
    (h : k.Stores w m) (hm : m.Apart) (g : Gateway) (ctx : Context) {r : Request}
    (hr : r.RemovesObject)
    (hd : (ctx.run k.backend (g.dispatch r).run w).2.host.ids.Distinct) :
    ∃ left, k.Stores (ctx.run k.backend (g.dispatch r).run w).2 left ∧
      left.auxiliary = m.auxiliary := by
  obtain ⟨hfails, hdoes⟩ := (g.dispatch_effect hm r).run k.atomic h ctx hd
  cases hanswer : (ctx.run k.backend (g.dispatch r).run w).1 with
  | error cause => exact ⟨m, hfails cause hanswer, rfl⟩
  | ok response =>
    obtain ⟨left, hleft, heffect⟩ := hdoes response hanswer
    refine ⟨left, hleft, ?_⟩
    have hremoves : ∃ b o, g.Removes m left (.object b o) := by
      obtain ⟨b, o, rfl | rfl⟩ := hr
      · exact ⟨b, o, heffect.leaves⟩
      · exact ⟨b, o, heffect.leaves⟩
    obtain ⟨b, o, hremoves⟩ := hremoves
    cases hremoves with
    | object resolved named loses =>
      exact loses.auxiliary (Memory.StoredBucket.parent_of_named named)

-- ---------------------------------------------------------------------------
-- Where runs start
-- ---------------------------------------------------------------------------

/-- In a store in which an identifier belongs to one object only, no root object has that of an
auxiliary one. -/
theorem Memory.Store.OneHome.not_isAuxiliary {m : Store} {ids : IdSupply} (h : m.OneHome)
    (hm : m.Sound ids) {b : StoredBucket} (hb : b ∈ m.rooted.buckets) {o : StoredObject}
    (ho : o ∈ b.objects) : ¬m.IsAuxiliary o.info.id := by
  rintro ⟨b', hb', o', ho', hparent, hid⟩
  obtain ⟨b, hmem, rfl⟩ := List.mem_map.mp hb
  obtain ⟨ho, hroot⟩ := List.mem_filter.mp ho
  have hfound := hm.apart.object?_of_mem hmem ho
  have hfound' := hm.apart.object?_of_mem hb' ho'
  rw [hid] at hfound'
  have hplace := h _ _ _ (Option.isSome_of_eq_some hfound) (Option.isSome_of_eq_some hfound')
  rw [hplace, hfound'] at hfound
  cases hfound
  rw [Option.isNone_iff_eq_none.mp hroot] at hparent
  cases hparent

/-- Two worlds of a backend hold the same buckets with the same root objects, next to any
auxiliary ones. Identifiers belong to one object each. They have been told alike to answer no
call, and to fail for the heads of the same objects. -/
structure AgreeOnRoots {k : BackendKind} (w w' : World k.Store) (m m' : Store) : Prop where
  stores : k.Stores w m
  stores' : k.Stores w' m'
  sound : m.Sound w.host.ids
  sound' : m'.Sound w'.host.ids
  home : m.OneHome
  home' : m'.OneHome
  roots : m.rooted.buckets = m'.rooted.buckets
  stalled : k.Stalled w ↔ k.Stalled w'
  answers : ∀ id, k.Answers w id ↔ k.Answers w' id

namespace AgreeOnRoots

variable {k : BackendKind} {w w' : World k.Store} {m m' : Store}

/-- Runs of clients who go by the names of objects keep to root objects. -/
def origins (h : AgreeOnRoots w w' m m') (owner : OwnerId) : Origins k where
  owner := owner
  manner := .byObjectName
  part := Store.rooted
  left := w
  right := w'
  beside := Memory.auxiliarySurroundings owner m.IsAuxiliary
  beside' := Memory.auxiliarySurroundings owner m'.IsAuxiliary
  healthy h := h.rooted
  issued := h.sound.issued_of_auxiliary
  issued' := h.sound'.issued_of_auxiliary
  clear_bucket _ _ := ⟨id, id⟩
  clear_object hclear hid := hclear.objects _ hid
  stalled := h.stalled
  answers := h.answers

theorem neighbours (h : AgreeOnRoots w w' m m') (owner : OwnerId) :
    Neighbours (h.origins owner) (Memory.keys m.rooted.buckets) w w' m m' where
  left := ⟨h.stores, h.sound, m.hides_isAuxiliary, .refl _, Iff.rfl, fun _ => Iff.rfl⟩
  right := ⟨h.stores', h.sound', m'.hides_isAuxiliary, .refl _, Iff.rfl, fun _ => Iff.rfl⟩
  paired := h.sound.rooted.paired h.sound'.rooted h.roots
  names := m.rooted.goesBy_keys
  clear := by
    refine ⟨fun _ _ => ⟨id, id⟩, fun p hp => ?_⟩
    obtain ⟨b, hb, o, ho, rfl⟩ := Memory.mem_keys_objects.mp hp
    exact ⟨h.home.not_isAuxiliary h.sound hb ho,
      h.home'.not_isAuxiliary h.sound' (h.roots ▸ hb) ho⟩
  generated := Memory.generated_keys _ _ _

end AgreeOnRoots

-- ---------------------------------------------------------------------------
-- Whole runs
-- ---------------------------------------------------------------------------

namespace Desk

section

variable {σ : Type}

/-- One of the runs has generated the identifier since it started. -/
def Generated (start start' d d' : Desk σ) (id : BucketId) : Prop :=
  (d.session.world.host.ids.Issued id ∧ ¬start.session.world.host.ids.Issued id) ∨
    d'.session.world.host.ids.Issued id ∧ ¬start'.session.world.host.ids.Issued id

end

variable {k : BackendKind} {settings : Settings} {start start' d d' : Desk k.Store}

/-- The buckets of these identifiers are at the same place in what is stored. -/
def InPlace (d d' : Desk k.Store) (p : BucketId × BucketId) : Prop :=
  ∃ m m', k.Stores d.session.world m ∧ k.Stores d'.session.world m' ∧
    p ∈ (m.buckets.map (·.info.id)).zip (m'.buckets.map (·.info.id))

/-- Two runs of clients who go by the names of objects, with what the clients were told. They
come to know, by whatever means, identifiers of buckets that are at the same place. Where a
writer is asked for, the directory for uploads opens on both hosts or fails on both: what is
stored is not in its way. -/
inductive Abreast (k : BackendKind) (settings : Settings) (start start' : Desk k.Store) :
    List (BucketId × BucketId) → List (Outcome × Outcome) → Desk k.Store → Desk k.Store → Prop
  | start : Abreast k settings start start' [] [] start start'
  | learn {known : List (BucketId × BucketId)} {log : List (Outcome × Outcome)}
      {d d' : Desk k.Store} (h : Abreast k settings start start' known log d d')
      {p : BucketId × BucketId} (hp : InPlace d d' p) :
      Abreast k settings start start' (known ++ [p]) log d d'
  | step {known : List (BucketId × BucketId)} {log : List (Outcome × Outcome)}
      {d d' : Desk k.Store} (h : Abreast k settings start start' known log d d') {e e' : Event}
      (he : e.Beside (Request.Spelled known (Generated start start' d d')) e')
      (hstaging : e.Opens → d.staging settings = d'.staging settings) :
      Abreast k settings start start' known
        (log ++ [((d.step k.backend settings e).1, (d'.step k.backend settings e').1)])
        (d.step k.backend settings e).2 (d'.step k.backend settings e').2

theorem inPlace_of_buckets {d d' : Desk Store} {p : BucketId × BucketId}
    (h : p ∈ (d.session.world.store.buckets.map (·.info.id)).zip
      (d'.session.world.store.buckets.map (·.info.id))) : InPlace (k := .memory) d d' p :=
  ⟨{ buckets := d.session.world.store.buckets }, { buckets := d'.session.world.store.buckets },
    ⟨⟨rfl, rfl⟩, rfl⟩, ⟨⟨rfl, rfl⟩, rfl⟩, h⟩

/-- Buckets at the same place of stores that are the same but for keys are partners. -/
theorem InPlace.partners {s : Origins k} {ρ : Renaming} {m m' : Store} {p : BucketId × BucketId}
    (h : InPlace d d' p) (hworlds : Neighbours s ρ d.session.world d'.session.world m m')
    (hpart : s.part = Store.rooted) : p ∈ ρ.buckets := by
  obtain ⟨n, n', hn, hn', hp⟩ := h
  rw [BackendKind.Stores.bucketIds_eq hn hworlds.left.stores,
    BackendKind.Stores.bucketIds_eq hn' hworlds.right.stores] at hp
  have hbuckets := hworlds.paired.buckets
  rw [hpart] at hbuckets
  have hids : Forall₂ (fun id id' => (id, id') ∈ ρ.buckets) (m.buckets.map (·.info.id))
      (m'.buckets.map (·.info.id)) := by
    simp only [Store.rooted, List.forall₂_map_left_iff, List.forall₂_map_right_iff] at hbuckets ⊢
    exact hbuckets.imp fun _ _ hb => hb.info.id
  exact (List.forall₂_iff_zip.mp hids).2 hp

/-- What is not generated by either run may be used by both. -/
theorem spoken_of_not_generated {s : Origins k} {ρ : Renaming} {m m' : Store}
    (hworlds : Neighbours s ρ d.session.world d'.session.world m m')
    (hleft : s.left = start.session.world) (hright : s.right = start'.session.world)
    {id : BucketId} (h : ¬Generated start start' d d' id) : Renaming.Spoken ρ.buckets id id := by
  simp only [Generated, not_or, not_and, not_not] at h
  exact hworlds.spoken_of_old (hleft ▸ h.1) (hright ▸ h.2)

namespace Abreast

variable {known : List (BucketId × BucketId)} {log : List (Outcome × Outcome)}
  {w w' : World k.Store} {m m' : Store}

theorem extends_start (h : Abreast k settings start start' known log d d') :
    d.session.world.host.ids.Extends start.session.world.host.ids ∧
      d'.session.world.host.ids.Extends start'.session.world.host.ids := by
  induction h with
  | start => exact ⟨.refl _, .refl _⟩
  | learn _ _ ih => exact ih
  | step _ _ _ ih =>
    exact ⟨(step_extends _ settings _).trans ih.1, (step_extends _ settings _).trans ih.2⟩

/-- Runs that start with the same root objects end as twins, and clients have been told the
same. -/
theorem twins (hagree : AgreeOnRoots w w' m m')
    (h : Abreast k settings ⟨⟨w, []⟩, []⟩ ⟨⟨w', []⟩, []⟩ known log d d')
    (hleft : Unharmed w d.session.world.host.ids)
    (hright : Unharmed w' d'.session.world.host.ids) :
    ∃ ρ : Renaming, known ⊆ ρ.buckets ∧
      (∀ o ∈ log, Manner.byObjectName.Outcomes ρ o.1 o.2) ∧
      Twins (hagree.origins settings.owner) ρ d d' := by
  induction h with
  | start =>
    exact ⟨_, List.nil_subset _, fun _ ho => absurd ho List.not_mem_nil,
      ⟨m, m', hagree.neighbours settings.owner⟩, .nil, .nil⟩
  | learn _ hp ih =>
    obtain ⟨ρ, hknown, hlog, htwins⟩ := ih hleft hright
    obtain ⟨n, n', hworlds⟩ := htwins.worlds
    refine ⟨ρ, fun p hmem => ?_, hlog, htwins⟩
    obtain hmem | rfl := List.mem_append.mp hmem |>.imp_right List.mem_singleton.mp
    · exact hknown hmem
    · exact hp.partners hworlds rfl
  | @step known log d d' _ e e' he hstaging ih =>
    obtain ⟨ρ, hknown, hlog, htwins⟩ :=
      ih (hleft.before (d.step_extends settings e)) (hright.before (d'.step_extends settings e'))
    obtain ⟨n, n', hworlds⟩ := htwins.worlds
    have hbeside := he.imp fun _ _ hr =>
      hr.beside hknown fun _ => spoken_of_not_generated hworlds rfl rfl
    obtain ⟨later, hsub, -, houtcome, hlater⟩ :=
      htwins.step rfl hbeside hstaging hleft hright
    refine ⟨later, fun p hp => hsub.buckets (hknown hp), fun o ho => ?_, hlater⟩
    obtain ho | rfl := List.mem_append.mp ho |>.imp_right List.mem_singleton.mp
    · exact (hlog o ho).mono hsub
    · exact houtcome

end Abreast

/-- Requests to remove an object leave all auxiliary objects where they are, however they go. -/
def SparesAuxiliary (w : World k.Store) (m : Store) : Prop :=
  ∀ (g : Gateway) (ctx : Context) (r : Request), r.RemovesObject →
    (ctx.run k.backend (g.dispatch r).run w).2.host.ids.Distinct →
      ∃ left, k.Stores (ctx.run k.backend (g.dispatch r).run w).2 left ∧
        left.auxiliary = m.auxiliary

/-- What two runs come to that start with the same root objects: clients have been told the same
but for identifiers, there are the same buckets and root objects but for identifiers, and no
request to remove an object would take an auxiliary one. Only identifiers that have been
generated meanwhile differ. -/
structure Unseen (ρ : Renaming) (start start' : World k.Store) (log : List (Outcome × Outcome))
    (left right : World k.Store) : Prop where
  generated : ρ.Generated start.host.ids start'.host.ids
  oneBuckets : Renaming.OneToOne ρ.buckets
  oneObjects : Renaming.OneToOne ρ.objects
  outcomes : ∀ o ∈ log, Manner.byObjectName.Outcomes ρ o.1 o.2
  ends : ∃ n n', k.Stores left n ∧ k.Stores right n' ∧
    Forall₂ (SameBucket ρ) n.rooted.buckets n'.rooted.buckets ∧
    SparesAuxiliary left n ∧ SparesAuxiliary right n'

/-- Clients who go by the names of objects do not see objects that have a parent, and do not
remove them. -/
theorem auxiliary_unseen {w w' : World k.Store} {m m' : Store} (hagree : AgreeOnRoots w w' m m')
    {known : List (BucketId × BucketId)} {log : List (Outcome × Outcome)}
    (h : Abreast k settings ⟨⟨w, []⟩, []⟩ ⟨⟨w', []⟩, []⟩ known log d d')
    (hleft : Unharmed w d.session.world.host.ids)
    (hright : Unharmed w' d'.session.world.host.ids) :
    ∃ ρ : Renaming, known ⊆ ρ.buckets ∧
      Unseen ρ w w' log d.session.world d'.session.world := by
  obtain ⟨ρ, hknown, houtcomes, ⟨n, n', hworlds⟩, -, -⟩ := h.twins hagree hleft hright
  have hspares : SparesAuxiliary d.session.world n := fun g ctx _ hr hd =>
    g.dispatch_spares_auxiliary hworlds.left.stores hworlds.left.sound.apart ctx hr hd
  have hspares' : SparesAuxiliary d'.session.world n' := fun g ctx _ hr hd =>
    g.dispatch_spares_auxiliary hworlds.right.stores hworlds.right.sound.apart ctx hr hd
  exact ⟨ρ, hknown,
    { generated := hworlds.generated
      oneBuckets := hworlds.paired.oneBuckets
      oneObjects := hworlds.paired.oneObjects
      outcomes := houtcomes
      ends := ⟨n, n', hworlds.left.stores, hworlds.right.stores, hworlds.paired.buckets, hspares,
        hspares'⟩ }⟩

/-- A bucket `b` with a root object `f`, behind an auxiliary object of the same name. -/
def shadowedWorld : World Store :=
  [Command.putBucket { owner := Id.nil, attributes := .named Attributes.nameKey "b" 0 },
    .putObject { bucket := ⟨0⟩, owner := Id.nil, parent := some ⟨2⟩
                 attributes := .named Attributes.fileNameKey "f" 0 } (.ofChunks [[9]]),
    .putObject { bucket := ⟨0⟩, owner := Id.nil
                 attributes := .named Attributes.fileNameKey "f" 0 } (.ofChunks [[1, 2]])].foldl
    (fun w c => (Memory.serve w c).after) Session.emptyWorld

/-- The auxiliary object is taken out. -/
def bareWorld : World Store :=
  (Memory.serve shadowedWorld (.deleteObject ⟨0⟩ ⟨1⟩)).after

/-- There is another one, `g`. -/
def crowdedWorld : World Store :=
  (Memory.serve shadowedWorld (.putObject
    { bucket := ⟨0⟩, owner := Id.nil, parent := some ⟨2⟩
      attributes := .named Attributes.fileNameKey "g" 0 } (.ofChunks [[7]]))).after

/-- An identifier belongs to one object only if there is one bucket only. -/
theorem oneHome_of_single {m : Store} {b : StoredBucket} (h : m.buckets = [b]) : m.OneHome := by
  have hplace : ∀ bucket id, (m.object? bucket id).isSome → bucket = b.info.id := by
    intro bucket id hsome
    obtain ⟨o, ho⟩ := Option.isSome_iff_exists.mp hsome
    obtain ⟨b', hb', -⟩ := Memory.Store.object?_eq_some ho
    obtain ⟨hmem, rfl⟩ := Memory.Store.bucket?_eq_some hb'
    rw [h, List.mem_singleton] at hmem
    rw [hmem]
  intro id bucket bucket' hb hb'
  rw [hplace bucket id hb, hplace bucket' id hb']

theorem agree_crowdedWorld :
    AgreeOnRoots (k := .memory) bareWorld crowdedWorld bareWorld.store crowdedWorld.store := by
  have hempty : Session.emptyWorld.store.Sound Session.emptyWorld.host.ids := by
    constructor <;> simp [Session.emptyWorld]
  have hbucket := Memory.serve_sound hempty
    (.putBucket { owner := Id.nil, attributes := .named Attributes.nameKey "b" 0 })
    (IdSupply.distinct_counting (n := 1) (by decide))
  have hauxiliary := Memory.serve_sound hbucket
    (.putObject { bucket := ⟨0⟩, owner := Id.nil, parent := some ⟨2⟩
                  attributes := .named Attributes.fileNameKey "f" 0 } (.ofChunks [[9]]))
    (IdSupply.distinct_counting (n := 2) (by decide))
  have hshadowed : shadowedWorld.store.Sound shadowedWorld.host.ids :=
    Memory.serve_sound hauxiliary _ (IdSupply.distinct_counting (n := 3) (by decide))
  exact
    { stores := ⟨⟨rfl, rfl⟩, rfl⟩
      stores' := ⟨⟨rfl, rfl⟩, rfl⟩
      sound := Memory.serve_sound hshadowed _ (IdSupply.distinct_counting (n := 3) (by decide))
      sound' := Memory.serve_sound hshadowed _ (IdSupply.distinct_counting (n := 4) (by decide))
      home := oneHome_of_single rfl
      home' := oneHome_of_single rfl
      roots := by decide +kernel
      stalled := Iff.rfl
      answers := fun _ => Iff.rfl }

/-- The object `f` is read and removed, an object `g` is put, a bucket `c` is made and listed by
its identifier. -/
theorem abreast_crowdedWorld :
    ∃ log d d', Abreast .memory Session.refusing ⟨⟨bareWorld, []⟩, []⟩
        ⟨⟨crowdedWorld, []⟩, []⟩ [(⟨4⟩, ⟨5⟩)] log d d' ∧
      log.length = 8 ∧ d.readers.length = 1 ∧ d.session.writers.length = 1 ∧
      d.session.world.host.ids.drawn ≤ 2 ^ 128 ∧ d'.session.world.host.ids.drawn ≤ 2 ^ 128 := by
  have hnames : ∀ (r : Request) known new,
      r.path = .bucket "c" ∨ r.path = .object "b" "f" ∨ r.path = .object "b" "g" →
      r.Spelled known new r := by
    have hb : (Id.parse? "b" : Option BucketId) = none := by decide +kernel
    have hc : (Id.parse? "c" : Option BucketId) = none := by decide +kernel
    have hf : (Id.parse? "f" : Option ObjectId) = none := by decide +kernel
    have hg : (Id.parse? "g" : Option ObjectId) = none := by decide +kernel
    intro r known new hpath
    refine .refl (fun b id hbucket hread => ?_) fun b o hobject => ?_
    · rcases hpath with h | h | h <;> rw [h] at hbucket <;> cases hbucket
      · rw [hc] at hread; cases hread
      · rw [hb] at hread; cases hread
      · rw [hb] at hread; cases hread
    · rcases hpath with h | h | h <;> rw [h] at hobject <;> cases hobject
      · exact hf
      · exact hg
  have hstart : Abreast .memory Session.refusing ⟨⟨bareWorld, []⟩, []⟩
      ⟨⟨crowdedWorld, []⟩, []⟩ [] [] _ _ := .start
  have hfound := hstart.step
    (.request {} 0 (hnames (.get (.object "b" "f")) _ _ (by simp [Request.path])))
    (by simp [Event.Opens, Request.method])
  have hread := hfound.step (.read {} 0 [0, 0, 0] 0) (by simp [Event.Opens])
  have hopened := hread.step
    (.request {} 0 (hnames (.put (.object "b" "g")) _ _ (by simp [Request.path])))
    fun _ => rfl
  have hwritten := hopened.step (.write 0 [1, 2] 3) (by simp [Event.Opens])
  have hclosed := hwritten.step (.close {} 0 0) (by simp [Event.Opens])
  have hremoved := hclosed.step
    (.request {} 0 (hnames (.remove (.object "b" "f")) _ _ (by simp [Request.path])))
    (by simp [Event.Opens, Request.method])
  have hmade := hremoved.step
    (.request {} 0 (hnames (.mkdir (.bucket "c")) _ _ (by simp [Request.path])))
    (by simp [Event.Opens, Request.method])
  have hlearned := hmade.learn (p := (⟨4⟩, ⟨5⟩)) (inPlace_of_buckets (by decide +kernel))
  have hspelled : ∀ new, Request.Spelled [(⟨4⟩, ⟨5⟩)] new (.list (.bucket (Id.text ⟨4⟩)))
      (.list (.bucket (Id.text ⟨5⟩))) := fun new =>
    .other (by decide) (.bucket (.partners (List.mem_singleton_self _) (Id.parse?_text _)
      (Id.parse?_text _)))
  have hlisted := hlearned.step (.request {} 0 (hspelled _)) (by simp [Event.Opens, Request.method])
  exact ⟨_, _, _, hlisted, rfl, by decide +kernel, by decide +kernel, by decide +kernel,
    by decide +kernel⟩

theorem auxiliary_unseen_sameName :
    AgreeOnRoots (k := .memory) bareWorld crowdedWorld bareWorld.store crowdedWorld.store ∧
      ∃ log d d', Abreast .memory Session.refusing ⟨⟨bareWorld, []⟩, []⟩
          ⟨⟨crowdedWorld, []⟩, []⟩ [(⟨4⟩, ⟨5⟩)] log d d' ∧
        log.length = 8 ∧ d.readers.length = 1 ∧ d.session.writers.length = 1 ∧
        Unharmed (k := .memory) bareWorld d.session.world.host.ids ∧
        Unharmed (k := .memory) crowdedWorld d'.session.world.host.ids ∧
        ∃ ρ : Renaming, [(⟨4⟩, ⟨5⟩)] ⊆ ρ.buckets ∧
          Unseen (k := .memory) ρ bareWorld crowdedWorld log d.session.world d'.session.world := by
  obtain ⟨log, d, d', hrun, hlength, hreaders, hwriters, hfew, hfew'⟩ := abreast_crowdedWorld
  obtain ⟨hids, hids'⟩ := hrun.extends_start
  have hleft : Unharmed (k := .memory) bareWorld d.session.world.host.ids :=
    ⟨IdSupply.distinct_of_counting hids rfl hfew, fun _ _ _ => List.not_mem_nil⟩
  have hright : Unharmed (k := .memory) crowdedWorld d'.session.world.host.ids :=
    ⟨IdSupply.distinct_of_counting hids' rfl hfew', fun _ _ _ => List.not_mem_nil⟩
  exact ⟨agree_crowdedWorld, log, d, d', hrun, hlength, hreaders, hwriters, hleft, hright,
    auxiliary_unseen agree_crowdedWorld hrun hleft hright⟩

end Desk
end ObjectGateway
