import ObjectGateway.Proofs.Attributes
import Mathlib.Data.List.Dedup
import ObjectGateway.Proofs.Backend.InStep
import ObjectGateway.Proofs.Backend.Passing
import ObjectGateway.Proofs.Backend.Settling
import ObjectGateway.Proofs.Memory.Changes
import ObjectGateway.Proofs.Memory.Parts
import ObjectGateway.Proofs.Memory.Renaming
/-!
# Worlds that differ outside of a part

Two worlds of a backend may hold the same in a part of their stores, but for keys, next to
anything outside of it. Commands that keep to the part and are given side by side are answered
alike in both, and leave them like that.
-/
namespace ObjectGateway

open Memory (Store StoredBucket StoredObject Parted Surroundings)
open Config (BackendKind)

-- ---------------------------------------------------------------------------
-- Names and keys
-- ---------------------------------------------------------------------------

namespace Renaming

variable {ρ : Renaming}

/-- Metadata with a display name tells the same one on both sides, and so does metadata without
one if its identifier is the same. -/
theorem ObjectMetas.name_eq {info info' : ObjectMeta} (h : ρ.ObjectMetas info info')
    (hid : info.attributes.get? Attributes.fileNameKey = none → info.id = info'.id) :
    info.name = info'.name := by
  rw [ObjectMeta.name, ObjectMeta.name, ← h.attributes]
  cases hname : info.attributes.get? Attributes.fileNameKey with
  | some name => rw [Option.getD_some, Option.getD_some]
  | none => rw [hid hname]

theorem BucketMetas.name_eq {info info' : BucketMeta} (h : ρ.BucketMetas info info')
    (hid : info.attributes.get? Attributes.nameKey = none → info.id = info'.id) :
    info.name = info'.name := by
  rw [BucketMeta.name, BucketMeta.name, ← h.attributes]
  cases hname : info.attributes.get? Attributes.nameKey with
  | some name => rw [Option.getD_some, Option.getD_some]
  | none => rw [hid hname]

/-- Identifiers that differ from their partners have been generated since. -/
structure Generated (ρ : Renaming) (ids ids' : IdSupply) : Prop where
  buckets : ∀ p ∈ ρ.buckets, p.1 = p.2 ∨ ¬ids.Issued p.1 ∧ ¬ids'.Issued p.2
  objects : ∀ p ∈ ρ.objects, p.1 = p.2 ∨ ¬ids.Issued p.1 ∧ ¬ids'.Issued p.2

end Renaming

namespace Memory

/-- What has no display name goes by an identifier that is its own partner. -/
def Store.GoesBy (m : Store) (ρ : Renaming) : Prop :=
  m.Each
    (fun info => info.attributes.get? Attributes.nameKey = none → (info.id, info.id) ∈ ρ.buckets)
    fun o => o.info.attributes.get? Attributes.fileNameKey = none →
      (o.info.id, o.info.id) ∈ ρ.objects

variable {m : Store} {ρ later : Renaming} {M : Manner} {owner : OwnerId} {c c' : Command}
  {w w' : World Store}

theorem Store.GoesBy.mono (h : m.GoesBy ρ) (hsub : ρ.Sub later) : m.GoesBy later :=
  fun b hb => ⟨fun hname => hsub.buckets ((h b hb).1 hname),
    fun o ho hname => hsub.objects ((h b hb).2 o ho hname)⟩

/-- Gateways give display names to all that they create. -/
theorem Store.GoesBy.serve (h : w.store.GoesBy ρ) (hc : c.Beside M owner later c') :
    (serve w c).after.store.GoesBy ρ := by
  refine Store.Each.serve h ?_ ?_
  · rintro header id rfl hname
    cases hc
    simp [Attributes.get?_named Attributes.nameKey_ne] at hname
  · rintro header payload id content rfl hname
    cases hc
    simp [StoredObject.ofHeader, Attributes.get?_named Attributes.fileNameKey_ne] at hname

/-- An answer about something without a display name tells the same name on both sides, for it
is the text of the same identifier. -/
theorem Store.GoesBy.told (h : w.store.GoesBy ρ) (hone : Renaming.OneToOne ρ.buckets)
    (hone' : Renaming.OneToOne ρ.objects) (hc : c.Beside M owner ρ c') {a : c.Answer}
    {a' : c'.Answer} (ha : (Memory.serve w c).answer = some (.ok a))
    (hresults : (ρ.learn c c' (some (.ok a)) (some (.ok a'))).Results c c' a a') :
    c.told a = c'.told a' := by
  cases hc with
  | @headObject bucket bucket' id id' =>
    have hinfo : ρ.ObjectMetas a a' := hresults
    refine congrArg some (hinfo.name_eq fun hname => ?_)
    -- The object was found in the store, so its identifier is its own partner.
    have hself : (a.id, a.id) ∈ ρ.objects := by
      have hhead : w.store.head bucket id = .ok a := Option.some.inj ha
      unfold Store.head at hhead
      split at hhead
      · cases hhead
      · cases ho : w.store.object? bucket id with
        | none => simp [ho] at hhead
        | some o =>
          rw [ho] at hhead
          cases hhead
          obtain ⟨b, hb, hfind⟩ := Store.object?_eq_some ho
          exact (h b (Store.bucket?_eq_some hb).1).2 o
            (StoredBucket.find?_eq_some hfind).1 hname
    exact ((hone'.fst_eq_iff hself hinfo.id).mp rfl).symm
  | @getBucket id id' =>
    have hinfo : ρ.BucketMetas a a' := hresults
    refine congrArg some (hinfo.name_eq fun hname => ?_)
    have hself : (a.id, a.id) ∈ ρ.buckets := by
      have hget := Option.some.inj ha
      cases hb : w.store.bucket? id with
      | none => simp [hb] at hget
      | some b =>
        rw [hb] at hget
        cases hget
        exact (h b (Store.bucket?_eq_some hb).1).1 hname
    exact ((hone.fst_eq_iff hself hinfo.id).mp rfl).symm
  | _ => rfl

/-- What an upload answers with has just been drawn. -/
theorem not_issued_stored {header : ObjectHeader} {payload : PayloadStream} {id : ObjectId}
    (ha : (Memory.serve w (.putObject header payload)).answer = some (.ok id))
    (hd : (Memory.serve w (.putObject header payload)).after.host.ids.Distinct) :
    ¬w.host.ids.Issued id := by
  have hdone := done_of_answer ha
  generalize (Memory.serve w (.putObject header payload)).after = left at hdone hd
  cases hdone with
  | looked hlooks => cases hlooks
  | stored => exact IdSupply.not_issued_draw hd

theorem not_issued_made {header : BucketHeader} {id : BucketId}
    (ha : (Memory.serve w (.putBucket header)).answer = some (.ok id))
    (hd : (Memory.serve w (.putBucket header)).after.host.ids.Distinct) :
    ¬w.host.ids.Issued id := by
  have hdone := done_of_answer ha
  generalize (Memory.serve w (.putBucket header)).after = left at hdone hd
  cases hdone with
  | looked hlooks => cases hlooks
  | made => exact IdSupply.not_issued_draw hd

/-- Pairs that are learned are of keys that have just been drawn. -/
theorem mem_learn {r : Except BackendError c.Answer} {r' : Except BackendError c'.Answer}
    (ha : (Memory.serve w c).answer = some r) (ha' : (Memory.serve w' c').answer = some r')
    (hd : (Memory.serve w c).after.host.ids.Distinct)
    (hd' : (Memory.serve w' c').after.host.ids.Distinct) :
    (∀ p ∈ (ρ.learn c c' (some r) (some r')).buckets,
        p ∈ ρ.buckets ∨ ¬w.host.ids.Issued p.1 ∧ ¬w'.host.ids.Issued p.2) ∧
      ∀ p ∈ (ρ.learn c c' (some r) (some r')).objects,
        p ∈ ρ.objects ∨ ¬w.host.ids.Issued p.1 ∧ ¬w'.host.ids.Issued p.2 := by
  unfold Renaming.learn
  split
  · rename_i hr hr'
    cases hr
    cases hr'
    refine ⟨fun p hp => .inl hp, fun p hp => ?_⟩
    obtain hp | rfl := List.mem_append.mp hp |>.imp_right List.mem_singleton.mp
    · exact .inl hp
    · exact .inr ⟨not_issued_stored ha hd, not_issued_stored ha' hd'⟩
  · rename_i hr hr'
    cases hr
    cases hr'
    refine ⟨fun p hp => ?_, fun p hp => .inl hp⟩
    obtain hp | rfl := List.mem_append.mp hp |>.imp_right List.mem_singleton.mp
    · exact .inl hp
    · exact .inr ⟨not_issued_made ha hd, not_issued_made ha' hd'⟩
  · exact ⟨fun p hp => .inl hp, fun p hp => .inl hp⟩

end Memory

-- ---------------------------------------------------------------------------
-- Commands side by side
-- ---------------------------------------------------------------------------

/-- Commands that read no stream, or one that ends, correspond. -/
theorem Command.Beside.corresponds {M : Manner} {owner : OwnerId} {ρ : Renaming} {c c' : Command}
    (h : c.Beside M owner ρ c') (hcomplete : c.Complete) : c.Corresponds ρ c' := by
  cases h with
  | headObject hbucket hid => exact .headObject (.inl hbucket) (M.spoken_object hid).named
  | getRange hbucket hid offset length => exact .getRange (.inl hbucket) (.inl hid) offset length
  | putObject hbucket hpayload name now =>
    cases hpayload with
    | complete h h' hbytes => exact .putObject (.inl hbucket) .none owner _ h h' hbytes
    | broken h h' =>
      obtain ⟨chunks, hchunks⟩ := hcomplete
      rw [h] at hchunks
      cases hchunks
  | deleteObject hbucket hid => exact .deleteObject (.inl hbucket) (.inl hid)
  | searchObjects hbucket => exact .searchObjects (.inl hbucket) _
  | getBucket hid => exact .getBucket (M.spoken_bucket hid).named
  | listBuckets => exact .listBuckets owner
  | putBucket policy acl name now => exact .putBucket _
  | deleteBucket hid => exact .deleteBucket (.inl hid)

theorem Renaming.learn_error (ρ : Renaming) (c c' : Command) (cause : BackendError)
    (r' : Option (Except BackendError c'.Answer)) :
    ρ.learn c c' (some (.error cause)) r' = ρ := by
  cases c <;> cases c' <;> rfl

-- ---------------------------------------------------------------------------
-- One world
-- ---------------------------------------------------------------------------

/-- Since the start keys have been drawn, and what was known of the rest is still true. -/
structure Aside (k : BackendKind) (rest : Store → Prop) (start w : World k.Store) (m : Store) :
    Prop where
  stores : k.Stores w m
  sound : m.Sound w.host.ids
  rest : rest m
  later : w.host.ids.Extends start.host.ids
  stalled : k.Stalled w ↔ k.Stalled start
  answers : ∀ id, k.Answers w id ↔ k.Answers start id

namespace Aside

variable {k : BackendKind} {part : Store → Store} {rest : Store → Prop}
  {start w : World k.Store} {m : Store} {c : Command} {ctx : Context}

theorem kept (h : Aside k rest start w m)
    (hstores : k.Stores (ctx.settle w (k.backend.call c w)).2 m) :
    Aside k rest start (ctx.settle w (k.backend.call c w)).2 m where
  stores := hstores
  sound := h.sound.of_extends (k.atomic.extends_settle ctx w c)
  rest := h.rest
  later := (k.atomic.extends_settle ctx w c).trans h.later
  stalled := (k.stalled_settle ctx w c).trans h.stalled
  answers id := (k.answers_settle ctx w c id).trans (h.answers id)

theorem carried (h : Aside k rest start w m) (hparted : Parted part rest ⟨w.host, m⟩ c)
    (hserved : Faithful.Served k.Stores w m c (ctx.settle w (k.backend.call c w)))
    (hd : (ctx.settle w (k.backend.call c w)).2.host.ids.Distinct) :
    Aside k rest start (ctx.settle w (k.backend.call c w)).2
      (Memory.serve ⟨w.host, m⟩ c).after.store where
  stores := hserved.holds
  sound := by
    rw [hserved.ids] at hd ⊢
    exact Memory.serve_sound (w := ⟨w.host, m⟩) h.sound c hd
  rest := hparted.rest
  later := (k.atomic.extends_settle ctx w c).trans h.later
  stalled := (k.stalled_settle ctx w c).trans h.stalled
  answers id := (k.answers_settle ctx w c id).trans (h.answers id)

/-- What has not been handed out yet had not been at the start. -/
theorem new_at_start (h : Aside k rest start w m) {kind : IdKind} {id : Id kind}
    (hnew : ¬w.host.ids.Issued id) : ¬start.host.ids.Issued id :=
  fun hold => hnew (hold.of_extends h.later)

end Aside

-- ---------------------------------------------------------------------------
-- Two worlds
-- ---------------------------------------------------------------------------

/-- No identifier that is off has a partner. -/
structure Renaming.Clear (ρ : Renaming) (off off' : (kind : IdKind) → Id kind → Prop) : Prop where
  buckets : ∀ p ∈ ρ.buckets, ¬off .bucket p.1 ∧ ¬off' .bucket p.2
  objects : ∀ p ∈ ρ.objects, ¬off .object p.1 ∧ ¬off' .object p.2

/-- Where two runs on backends of one kind start: the part of the stores that they keep to, what
there is beside it, how the runs ask, and what the backends have been told, which is the same. -/
structure Origins (k : BackendKind) where
  owner : OwnerId
  manner : Manner
  part : Store → Store
  left : World k.Store
  right : World k.Store
  beside : Surroundings part manner.search owner
  beside' : Surroundings part manner.search owner
  healthy : ∀ {m : Store}, m.Healthy → (part m).Healthy
  issued : ∀ {kind} {id : Id kind}, beside.off kind id → left.host.ids.Issued id
  issued' : ∀ {kind} {id : Id kind}, beside'.off kind id → right.host.ids.Issued id
  clear_bucket : ∀ {ρ : Renaming} {id id' : BucketId}, ρ.Clear beside.off beside'.off →
    manner.bucket ρ id id' → ¬beside.off .bucket id ∧ ¬beside'.off .bucket id'
  clear_object : ∀ {ρ : Renaming} {id id' : ObjectId}, ρ.Clear beside.off beside'.off →
    manner.object ρ id id' → ¬beside.off .object id ∧ ¬beside'.off .object id'
  stalled : k.Stalled left ↔ k.Stalled right
  answers : ∀ id, k.Answers left id ↔ k.Answers right id

/-- Commands that are given side by side keep to the part. -/
theorem Origins.within {k : BackendKind} (s : Origins k) {ρ : Renaming} {c c' : Command}
    (hclear : ρ.Clear s.beside.off s.beside'.off) (h : c.Beside s.manner s.owner ρ c') :
    c.Within s.beside.off s.manner.search s.owner ∧
      c'.Within s.beside'.off s.manner.search s.owner := by
  cases h with
  | headObject hbucket hid =>
    obtain ⟨hid, hid'⟩ := s.clear_object hclear hid
    exact ⟨⟨(hclear.buckets _ hbucket).1, hid⟩, (hclear.buckets _ hbucket).2, hid'⟩
  | getRange hbucket hid | deleteObject hbucket hid =>
    exact ⟨⟨(hclear.buckets _ hbucket).1, (hclear.objects _ hid).1⟩,
      (hclear.buckets _ hbucket).2, (hclear.objects _ hid).2⟩
  | putObject hbucket =>
    exact ⟨⟨(hclear.buckets _ hbucket).1, rfl⟩, (hclear.buckets _ hbucket).2, rfl⟩
  | searchObjects hbucket hfilters =>
    exact ⟨⟨(hclear.buckets _ hbucket).1, hfilters⟩, (hclear.buckets _ hbucket).2, hfilters⟩
  | getBucket hid => exact s.clear_bucket hclear hid
  | deleteBucket hid => exact hclear.buckets _ hid
  | listBuckets => exact ⟨rfl, rfl⟩
  | putBucket => exact ⟨rfl, rfl⟩

/-- Two worlds that hold the same in the part, but for keys, and next to it what is known from
the start. -/
structure Neighbours {k : BackendKind} (s : Origins k) (ρ : Renaming) (w w' : World k.Store)
    (m m' : Store) : Prop where
  left : Aside k s.beside.rest s.left w m
  right : Aside k s.beside'.rest s.right w' m'
  paired : Memory.Paired ρ w.host.ids w'.host.ids (s.part m) (s.part m')
  names : (s.part m).GoesBy ρ
  clear : ρ.Clear s.beside.off s.beside'.off
  generated : ρ.Generated s.left.host.ids s.right.host.ids

/-- The keys that have been handed out differ, and no head fails that has been drawn since the
start. -/
structure Unharmed {k : BackendKind} (start : World k.Store) (ids : IdSupply) : Prop where
  distinct : ids.Distinct
  heads : ∀ id : ObjectId, ids.Issued id → ¬start.host.ids.Issued id → k.Answers start id

theorem Unharmed.before {k : BackendKind} {start : World k.Store} {ids ids' : IdSupply}
    (hext : ids'.Extends ids) (h : Unharmed start ids') : Unharmed start ids :=
  ⟨h.distinct.of_extends hext, fun id hid => h.heads id (hid.of_extends hext)⟩

namespace Neighbours

variable {k : BackendKind} {s : Origins k} {ρ : Renaming} {w w' : World k.Store} {m m' : Store}
  {c c' : Command} {ctx : Context}

/-- Heads that are looked up side by side fail on both sides or on neither. -/
theorem answers_iff (h : Neighbours s ρ w w' m m') (hleft : Unharmed s.left w.host.ids)
    (hright : Unharmed s.right w'.host.ids) {id id' : ObjectId}
    (hid : Renaming.Spoken ρ.objects id id') : k.Answers w id ↔ k.Answers w' id' := by
  rw [h.left.answers, h.right.answers]
  obtain hpair | ⟨rfl, -⟩ := hid
  · obtain hsame | ⟨hnew, hnew'⟩ := h.generated.objects _ hpair
    · obtain rfl : id = id' := hsame
      exact s.answers id
    · obtain ⟨hissued, hissued'⟩ := h.paired.issuedObjects _ hpair
      exact iff_of_true (hleft.heads id hissued hnew) (hright.heads id' hissued' hnew')
  · exact s.answers id

/-- The identifier of a bucket that has not been generated since the start on either side may be
used on both. -/
theorem spoken_of_old (h : Neighbours s ρ w w' m m') {id : BucketId}
    (hold : w.host.ids.Issued id → s.left.host.ids.Issued id)
    (hold' : w'.host.ids.Issued id → s.right.host.ids.Issued id) :
    Renaming.Spoken ρ.buckets id id := by
  by_cases hself : (id, id) ∈ ρ.buckets
  · exact .inl hself
  -- The partner of an identifier that is not its own partner has been generated.
  refine .inr ⟨rfl, fun hfst => ?_, fun hsnd => ?_⟩
  · obtain ⟨⟨id, other⟩, hp, rfl⟩ := List.mem_map.mp hfst
    obtain hsame | ⟨hnew, -⟩ := h.generated.buckets _ hp
    · obtain rfl : id = other := hsame
      exact hself hp
    · exact hnew (hold (h.paired.issuedBuckets _ hp).1)
  · obtain ⟨⟨other, id⟩, hp, rfl⟩ := List.mem_map.mp hsnd
    obtain hsame | ⟨-, hnew⟩ := h.generated.buckets _ hp
    · obtain rfl : other = id := hsame
      exact hself hp
    · exact hnew (hold' (h.paired.issuedBuckets _ hp).2)

def After (s : Origins k) (ρ : Renaming) (c c' : Command)
    (r : Except BackendError c.Answer × World k.Store)
    (r' : Except BackendError c'.Answer × World k.Store) : Prop :=
  (ρ.learn c c' (some r.1) (some r'.1)).Told c c' r.1 r'.1 ∧
    ∃ m m', Neighbours s (ρ.learn c c' (some r.1) (some r'.1)) r.2 r'.2 m m'

/-- Both calls fail, and the stores are as they were. -/
theorem failed (h : Neighbours s ρ w w' m m') {cause : BackendError}
    (hr : (ctx.settle w (k.backend.call c w)).1 = .error cause)
    (hr' : (ctx.settle w' (k.backend.call c' w')).1 = .error cause)
    (hstores : k.Stores (ctx.settle w (k.backend.call c w)).2 m)
    (hstores' : k.Stores (ctx.settle w' (k.backend.call c' w')).2 m') :
    After s ρ c c' (ctx.settle w (k.backend.call c w)) (ctx.settle w' (k.backend.call c' w')) := by
  rw [After, hr, hr', ρ.learn_error]
  refine ⟨⟨.error cause, fun _ _ h => nomatch h⟩, m, m', ?_⟩
  exact
    { left := h.left.kept hstores
      right := h.right.kept hstores'
      paired := h.paired.of_extends (k.atomic.extends_settle ctx w c)
        (k.atomic.extends_settle ctx w' c')
      names := h.names
      clear := h.clear
      generated := h.generated }

/-- What is made of a call on either side when it is carried out. -/
theorem parted (h : Neighbours s ρ w w' m m') (hc : c.Beside s.manner s.owner ρ c') :
    Parted s.part s.beside.rest ⟨w.host, m⟩ c ∧ Parted s.part s.beside'.rest ⟨w'.host, m'⟩ c' := by
  obtain ⟨hwithin, hwithin'⟩ := s.within h.clear hc
  exact ⟨s.beside.serve h.left.rest hwithin, s.beside'.serve h.right.rest hwithin'⟩

/-- Pairs of keys that have just been drawn are clear of what was there from the start. -/
theorem clear_of_new (h : Neighbours s ρ w w' m m') {kind : IdKind} {id id' : Id kind}
    (hnew : ¬w.host.ids.Issued id ∧ ¬w'.host.ids.Issued id') :
    ¬s.beside.off kind id ∧ ¬s.beside'.off kind id' :=
  ⟨fun hoff => h.left.new_at_start hnew.1 (s.issued hoff),
    fun hoff => h.right.new_at_start hnew.2 (s.issued' hoff)⟩

/-- Both calls are carried out, each in the part of its store. -/
theorem carried (h : Neighbours s ρ w w' m m') (hc : c.Beside s.manner s.owner ρ c')
    (hcomplete : c.Complete)
    (hserved : Faithful.Served k.Stores w m c (ctx.settle w (k.backend.call c w)))
    (hserved' : Faithful.Served k.Stores w' m' c' (ctx.settle w' (k.backend.call c' w')))
    (hd : (ctx.settle w (k.backend.call c w)).2.host.ids.Distinct)
    (hd' : (ctx.settle w' (k.backend.call c' w')).2.host.ids.Distinct) :
    After s ρ c c' (ctx.settle w (k.backend.call c w)) (ctx.settle w' (k.backend.call c' w')) := by
  obtain ⟨hparted, hparted'⟩ := h.parted hc
  have hleft := h.left.carried hparted hserved hd
  have hright := h.right.carried hparted' hserved' hd'
  generalize ctx.settle w (k.backend.call c w) = r at hserved hd hleft ⊢
  generalize ctx.settle w' (k.backend.call c' w') = r' at hserved' hd' hright ⊢
  have hids := (congrArg Host.ids hparted.host).trans hserved.ids.symm
  have hids' := (congrArg Host.ids hparted'.host).trans hserved'.ids.symm
  have hanswer := hparted.answer.trans hserved.answer
  have hanswer' := hparted'.answer.trans hserved'.answer
  rw [← hids] at hd
  rw [← hids'] at hd'
  have halong : Memory.Alongside ρ (Memory.serve ⟨w.host, s.part m⟩ c)
      (Memory.serve ⟨w'.host, s.part m'⟩ c') :=
    Memory.serve_alongside h.paired (s.healthy h.left.stores.healthy)
      (s.healthy h.right.stores.healthy) (hc.corresponds hcomplete) hd hd'
  obtain ⟨hbuckets, hobjects⟩ := Memory.mem_learn (ρ := ρ) hanswer hanswer' hd hd'
  have hsub := ρ.sub_learn c c' (some r.1) (some r'.1)
  have hnames := (h.names.serve (w := ⟨w.host, s.part m⟩) hc).mono hsub
  obtain ⟨⟨answer, answer', ha, ha', hanswers⟩, hpaired⟩ := halong
  obtain rfl := Option.some.inj (hanswer.symm.trans ha)
  obtain rfl := Option.some.inj (hanswer'.symm.trans ha')
  rw [hanswer, hanswer'] at hanswers hpaired
  rw [hids, hids', hparted.part, hparted'.part] at hpaired
  rw [hparted.part] at hnames
  refine ⟨⟨hanswers, ?_⟩, _, _, hleft, hright, hpaired, hnames, ?_, ?_⟩
  · intro a a' ha ha'
    rw [ha, ha'] at hanswers
    cases hanswers with
    | ok hresults =>
      exact h.names.told h.paired.oneBuckets h.paired.oneObjects hc
        (hanswer.trans (congrArg some ha)) hresults
  · exact ⟨fun p hp => (hbuckets p hp).elim (h.clear.buckets p) h.clear_of_new,
      fun p hp => (hobjects p hp).elim (h.clear.objects p) h.clear_of_new⟩
  · exact ⟨fun p hp => (hbuckets p hp).elim (h.generated.buckets p) fun hnew =>
        .inr ⟨h.left.new_at_start hnew.1, h.right.new_at_start hnew.2⟩,
      fun p hp => (hobjects p hp).elim (h.generated.objects p) fun hnew =>
        .inr ⟨h.left.new_at_start hnew.1, h.right.new_at_start hnew.2⟩⟩

/-- An upload whose stream breaks off fails alike: its bucket is there on both sides or on
neither. -/
theorem brokenUpload_eq (h : Neighbours s ρ w w' m m') {bucket bucket' : BucketId}
    (hbucket : (bucket, bucket') ∈ ρ.buckets) (cause : IoError) :
    k.brokenUpload m bucket cause = k.brokenUpload m' bucket' cause := by
  cases k with
  | memory => rfl
  | sqlite =>
    obtain ⟨hparted, hparted'⟩ := h.parted (.getBucket (s.manner.bucket_of_mem hbucket))
    have hrel := h.paired.bucket?_rel (.inl hbucket)
    have hsame : (m.bucket? bucket).isSome = (m'.bucket? bucket').isSome := by
      rw [← hparted.bucket?_isSome, ← hparted'.bucket?_isSome]
      generalize (s.part m).bucket? bucket = found at hrel ⊢
      generalize (s.part m').bucket? bucket' = found' at hrel ⊢
      cases hrel <;> rfl
    simp only [BackendKind.brokenUpload, hsame]

/-- Uploads whose streams break off come to nothing. -/
theorem upload_breaks (h : Neighbours s ρ w w' m m') {header header' : ObjectHeader}
    {payload payload' : PayloadStream} {cause : IoError}
    (hbucket : (header.bucket, header'.bucket) ∈ ρ.buckets) (hdrain : payload.drain = .failed cause)
    (hdrain' : payload'.drain = .failed cause) (hends : ∀ cause, ¬k.GivesUp w ctx cause)
    (hends' : ∀ cause, ¬k.GivesUp w' ctx cause) :
    After s ρ (.putObject header payload) (.putObject header' payload')
      (ctx.settle w (k.backend.call (.putObject header payload) w))
      (ctx.settle w' (k.backend.call (.putObject header' payload') w')) := by
  obtain ⟨hr, hstores⟩ := BackendKind.settle_broken hends h.left.stores hdrain
  obtain ⟨hr', hstores'⟩ := BackendKind.settle_broken hends' h.right.stores hdrain'
  rw [← h.brokenUpload_eq hbucket cause] at hr'
  exact h.failed hr hr' hstores hstores'

/-- Heads that fail on both sides come to nothing. -/
theorem head_fails (h : Neighbours s ρ w w' m m') {bucket bucket' : BucketId} {id id' : ObjectId}
    (hfails : ¬k.Answers w id) (hfails' : ¬k.Answers w' id')
    (hends : ∀ cause, ¬k.GivesUp w ctx cause) (hends' : ∀ cause, ¬k.GivesUp w' ctx cause) :
    After s ρ (.headObject bucket id) (.headObject bucket' id')
      (ctx.settle w (k.backend.call (.headObject bucket id) w))
      (ctx.settle w' (k.backend.call (.headObject bucket' id') w')) := by
  obtain ⟨hr, hstores⟩ := BackendKind.settle_failing hends h.left.stores bucket hfails
  obtain ⟨hr', hstores'⟩ := BackendKind.settle_failing hends' h.right.stores bucket' hfails'
  exact h.failed hr hr' hstores hstores'

/-- Whatever becomes of them, calls that are made side by side are answered alike, and leave
worlds that are neighbours. -/
theorem settle (h : Neighbours s ρ w w' m m') (hc : c.Beside s.manner s.owner ρ c')
    (hleft : Unharmed s.left (ctx.settle w (k.backend.call c w)).2.host.ids)
    (hright : Unharmed s.right (ctx.settle w' (k.backend.call c' w')).2.host.ids) :
    After s ρ c c' (ctx.settle w (k.backend.call c w)) (ctx.settle w' (k.backend.call c' w')) := by
  have hstalled : k.Stalled w ↔ k.Stalled w' :=
    h.left.stalled.trans (s.stalled.trans h.right.stalled.symm)
  by_cases hgives : ∃ cause, k.GivesUp w ctx cause
  · obtain ⟨cause, hcause⟩ := hgives
    obtain ⟨hr, hstores⟩ := BackendKind.settle_givesUp hcause h.left.stores c
    obtain ⟨hr', hstores'⟩ := BackendKind.settle_givesUp (hcause.same hstalled) h.right.stores c'
    exact h.failed hr hr' hstores hstores'
  have hends := not_exists.mp hgives
  have hends' : ∀ cause, ¬k.GivesUp w' ctx cause := fun cause hcause =>
    hends cause (hcause.same hstalled.symm)
  have hanswers : ∀ {id id'}, Renaming.Spoken ρ.objects id id' →
      (k.Answers w id ↔ k.Answers w' id') :=
    h.answers_iff (hleft.before (k.atomic.extends_settle ctx w c))
      (hright.before (k.atomic.extends_settle ctx w' c'))
  -- Calls that are not given up are carried out unless their stream breaks off, or they look for
  -- a head that fails.
  have hcarried : c.Complete → (∀ bucket id, c = .headObject bucket id → k.Answers w id) →
      (∀ bucket id, c' = .headObject bucket id → k.Answers w' id) →
      After s ρ c c' (ctx.settle w (k.backend.call c w)) (ctx.settle w' (k.backend.call c' w')) :=
    fun hcomplete hheads hheads' => h.carried hc hcomplete
      (BackendKind.settle_carried hends h.left.stores hcomplete hheads hleft.distinct)
      (BackendKind.settle_carried hends' h.right.stores (hc.corresponds hcomplete).complete.2
        hheads' hright.distinct)
      hleft.distinct hright.distinct
  cases hc with
  | @headObject bucket bucket' id id' hbucket hid =>
    by_cases hhead : k.Answers w id
    · refine hcarried trivial ?_ ?_
      · rintro _ _ ⟨⟩
        exact hhead
      · rintro _ _ ⟨⟩
        exact (hanswers (s.manner.spoken_object hid)).mp hhead
    · exact h.head_fails hhead ((hanswers (s.manner.spoken_object hid)).not.mp hhead) hends hends'
  | putObject hbucket hpayload name now =>
    cases hpayload with
    | complete hdrain => exact hcarried ⟨_, hdrain⟩ nofun nofun
    | broken hdrain hdrain' => exact h.upload_breaks hbucket hdrain hdrain' hends hends'
  | _ => exact hcarried trivial nofun nofun

/-- A look leaves the hosts as they are, so what may be opened meanwhile is opened alike until
the end. -/
theorem lasts (s : Origins k) (ctx : Context) (opens : Option String → Prop) :
    Lasts k.backend ctx s.manner s.owner (fun c => ∀ dir, opens dir → c.isMutating = false) opens
      (Unharmed s.left) (Unharmed s.right) fun ρ w w' =>
        (∃ m m', Neighbours s ρ w w' m m') ∧
          ∀ dir, opens dir → (HostAction.perform w.host (.openUnnamed dir)).1 =
            (HostAction.perform w'.host (.openUnnamed dir)).1 where
  call {ρ w w' c c'} hlooks hc := by
    rintro ⟨⟨m, m', h⟩, hopen⟩ hleft hright
    obtain ⟨htold, hafter⟩ := h.settle hc hleft hright
    refine ⟨htold, hafter, fun dir hdir => ?_⟩
    have hlook := hlooks dir hdir
    rw [(k.onlyCounted_settle ctx w hlook).host,
      (k.onlyCounted_settle ctx w' (hc.isMutating_eq.symm.trans hlook)).host]
    exact hopen dir hdir
  opened hdir h := h.2 _ hdir
  before := Unharmed.before
  before' := Unharmed.before

variable {α β : Type} {P : α → Prop} {Q : Renaming → α → β → Prop} {p : Program α} {p' : Program β}

/-- Programs in step end in what they end in, and leave neighbours. -/
theorem run {opens : Option String → Prop} (h : Neighbours s ρ w w' m m')
    (hp : p.InStep s.manner s.owner opens Q ρ p')
    (hlooks : p.Confined (fun c => ∀ dir, opens dir → c.isMutating = false) P)
    (hopens : ∀ dir, opens dir → (HostAction.perform w.host (.openUnnamed dir)).1 =
      (HostAction.perform w'.host (.openUnnamed dir)).1)
    (hleft : Unharmed s.left (ctx.run k.backend p w).2.host.ids)
    (hright : Unharmed s.right (ctx.run k.backend p' w').2.host.ids) :
    ∃ later, ρ.Sub later ∧
      (∃ m m', Neighbours s later (ctx.run k.backend p w).2 (ctx.run k.backend p' w').2 m m') ∧
      Q later (ctx.run k.backend p w).1 (ctx.run k.backend p' w').1 := by
  obtain ⟨later, hsub, ⟨hlater, -⟩, hends⟩ :=
    hp.run k.faithful (lasts s ctx opens) hlooks ⟨⟨m, m', h⟩, hopens⟩ hleft hright
  exact ⟨later, hsub, hlater, hends⟩

/-- Programs that open no file do so whatever they call. -/
theorem run_unopened {A : Command → Prop} (h : Neighbours s ρ w w' m m')
    (hp : p.InStep s.manner s.owner (fun _ => False) Q ρ p') (hcalls : p.Confined A P)
    (hleft : Unharmed s.left (ctx.run k.backend p w).2.host.ids)
    (hright : Unharmed s.right (ctx.run k.backend p' w').2.host.ids) :
    ∃ later, ρ.Sub later ∧
      (∃ m m', Neighbours s later (ctx.run k.backend p w).2 (ctx.run k.backend p' w').2 m m') ∧
      Q later (ctx.run k.backend p w).1 (ctx.run k.backend p' w').1 :=
  h.run hp (hcalls.mono (fun _ _ _ => False.elim) fun _ => id) (fun _ => False.elim) hleft hright

end Neighbours

-- ---------------------------------------------------------------------------
-- Where runs start
-- ---------------------------------------------------------------------------

namespace Memory

variable {m m' : Store} {ids ids' : IdSupply} {buckets : List StoredBucket}

/-- The keys of buckets and their objects, each its own partner. -/
def keys (buckets : List StoredBucket) : Renaming where
  buckets := buckets.map fun b => (b.info.id, b.info.id)
  objects := (buckets.flatMap fun b => b.objects.map (·.info.id)).dedup.map fun id => (id, id)

theorem mem_keys_objects {p : ObjectId × ObjectId} :
    p ∈ (keys buckets).objects ↔
      ∃ b ∈ buckets, ∃ o ∈ b.objects, p = (o.info.id, o.info.id) := by
  simp only [keys, List.mem_map, List.mem_dedup, List.mem_flatMap]
  constructor
  · rintro ⟨_, ⟨b, hb, o, ho, rfl⟩, rfl⟩
    exact ⟨b, hb, o, ho, rfl⟩
  · rintro ⟨b, hb, o, ho, rfl⟩
    exact ⟨_, ⟨b, hb, o, ho, rfl⟩, rfl⟩

/-- Stores of the same buckets are the same with every key as its own partner. -/
theorem Store.Sound.paired (h : m.Sound ids) (h' : m'.Sound ids') (hsame : m.buckets = m'.buckets) :
    Paired (keys m.buckets) ids ids' m m' where
  buckets := by
    rw [← hsame, List.forall₂_same]
    intro b hb
    have hbucket : (b.info.id, b.info.id) ∈ (keys m.buckets).buckets :=
      List.mem_map.mpr ⟨b, hb, rfl⟩
    refine ⟨⟨hbucket, rfl, rfl, rfl, rfl⟩, List.forall₂_same.mpr fun o ho => ?_⟩
    rw [← (h.inside b hb).filed o ho] at hbucket
    exact ⟨⟨mem_keys_objects.mpr ⟨b, hb, o, ho, rfl⟩, hbucket, rfl, rfl, rfl⟩, rfl, rfl⟩
  oneBuckets := by
    have hnodup := h.distinct
    constructor <;> simpa [keys, Function.comp_def] using hnodup
  oneObjects := by
    constructor <;> simpa [keys, Function.comp_def] using List.nodup_dedup _
  issuedBuckets p hp := by
    obtain ⟨b, hb, rfl⟩ := List.mem_map.mp hp
    exact ⟨h.issued b hb, h'.issued b (hsame ▸ hb)⟩
  issuedObjects p hp := by
    obtain ⟨b, hb, o, ho, rfl⟩ := mem_keys_objects.mp hp
    exact ⟨(h.inside b hb).issued o ho, (h'.inside b (hsame ▸ hb)).issued o ho⟩

theorem Store.goesBy_keys (m : Store) : m.GoesBy (keys m.buckets) :=
  fun b hb => ⟨fun _ => List.mem_map.mpr ⟨b, hb, rfl⟩,
    fun o ho _ => mem_keys_objects.mpr ⟨b, hb, o, ho, rfl⟩⟩

theorem generated_keys (buckets : List StoredBucket) (ids ids' : IdSupply) :
    (keys buckets).Generated ids ids' where
  buckets p hp := by
    obtain ⟨b, -, rfl⟩ := List.mem_map.mp hp
    exact .inl rfl
  objects p hp := by
    obtain ⟨b, -, o, -, rfl⟩ := mem_keys_objects.mp hp
    exact .inl rfl

end Memory

end ObjectGateway
