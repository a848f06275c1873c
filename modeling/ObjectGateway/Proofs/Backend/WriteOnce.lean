import ObjectGateway.Proofs.Backend.History
import ObjectGateway.Proofs.Backend.Kinds
/-!
# Objects are written once

From the moment that it is stored an object reads the same, until it is deleted or its
bucket is; from then on it is never found again. An identifier names an object in one
bucket only, at any time.
-/
namespace ObjectGateway

/-- Deletions after which the object is gone: its own, and that of its bucket. -/
inductive Deed.Removes (bucket : BucketId) (id : ObjectId) : Deed → Prop
  | object : Removes bucket id ⟨.deleteObject bucket id, .ok ()⟩
  | bucket : Removes bucket id ⟨.deleteBucket bucket, .ok ()⟩

variable {σ : Type}

/-- The object reads the same in both worlds: its head, and every range of its payload. -/
structure Backend.ReadsAlike (b : Backend (World σ)) (bucket : BucketId) (id : ObjectId)
    (w w' : World σ) : Prop where
  head : (b.call (.headObject bucket id) w').answer = (b.call (.headObject bucket id) w).answer
  range : ∀ offset length, (b.call (.getRange bucket id offset length) w').answer =
    (b.call (.getRange bucket id offset length) w).answer

/-- There is no such object, neither to be read nor to be deleted. -/
structure Backend.Missing (b : Backend (World σ)) (bucket : BucketId) (id : ObjectId)
    (w : World σ) : Prop where
  head : (b.call (.headObject bucket id) w).answer = some (.error .notFound)
  range : ∀ offset length,
    (b.call (.getRange bucket id offset length) w).answer = some (.error .notFound)
  delete : (b.call (.deleteObject bucket id) w).answer = some (.error .notFound)

-- ---------------------------------------------------------------------------
-- In memory
-- ---------------------------------------------------------------------------

namespace Memory

variable {w left : World Store} {c : Command} {a : c.Answer} {bucket : BucketId} {id : ObjectId}

/-- A call that succeeds takes the object away or does not touch it, given that its key has
been handed out already. -/
theorem Done.object? (h : Done w c a left) (hissued : w.host.ids.Issued id)
    (hd : left.host.ids.Distinct) (bucket : BucketId) :
    Deed.Removes bucket id ⟨c, .ok a⟩ ∧ left.store.object? bucket id = none ∨
      ¬Deed.Removes bucket id ⟨c, .ok a⟩ ∧
        left.store.object? bucket id = w.store.object? bucket id := by
  cases h with
  | looked hlooks =>
    refine .inr ⟨fun hremoves => ?_, rfl⟩
    cases hremoves with
    | object => cases hlooks
    | bucket => cases hlooks
  | @stored header payload chunks =>
    refine .inr ⟨nofun, ?_⟩
    -- The object that is stored has a key of its own.
    have hne : id ≠ (w.host.draw .object).1 := hissued.ne_draw hd
    have hadd := w.store.object?_addObject
      (.ofHeader (w.host.draw .object).1 header chunks.flatten) bucket id
    rw [if_neg fun hsame => hne hsame.2.1, Option.or_none] at hadd
    exact hadd
  | @deletedObject target target' =>
    have hremove := w.store.object?_removeObject target bucket target' id
    by_cases hsame : bucket = target ∧ id = target'
    · obtain ⟨rfl, rfl⟩ := hsame
      exact .inl ⟨.object, by simpa using hremove⟩
    · refine .inr ⟨fun hremoves => ?_, by rwa [if_neg hsame] at hremove⟩
      cases hremoves
      exact hsame ⟨rfl, rfl⟩
  | made header => exact .inr ⟨nofun, w.store.object?_addBucket _ bucket id⟩
  | @deletedBucket target =>
    have hremove := w.store.object?_removeBucket target bucket id
    by_cases hsame : bucket = target
    · obtain rfl := hsame
      exact .inl ⟨.bucket, by simpa using hremove⟩
    · refine .inr ⟨fun hremoves => ?_, by rwa [if_neg hsame] at hremove⟩
      cases hremoves
      exact hsame rfl

/-- What becomes of an object: it stays what it was, and nothing is found of it any more
once it has been removed. -/
structure Follows (bucket : BucketId) (id : ObjectId) (first : Option StoredObject)
    (log : List Deed) (ids : IdSupply) (m : Store) : Prop where
  issued : ids.Issued id
  kept : (∀ d ∈ log, ¬d.Removes bucket id) → m.object? bucket id = first
  gone : (∃ d ∈ log, d.Removes bucket id) → m.object? bucket id = none

theorem follows_start {ids : IdSupply} (hissued : ids.Issued id) (bucket : BucketId) (m : Store) :
    Follows bucket id (m.object? bucket id) [] ids m :=
  ⟨hissued, fun _ => rfl, by simp⟩

/-- What was not there is never there. -/
theorem Follows.absent {log : List Deed} {ids : IdSupply} {m : Store}
    (h : Follows bucket id none log ids m) : m.object? bucket id = none := by
  by_cases hgone : ∃ d ∈ log, d.Removes bucket id
  · exact h.gone hgone
  · exact h.kept (by simpa using hgone)

theorem recounts_follows (bucket : BucketId) (id : ObjectId) (first : Option StoredObject) :
    Recounts (Follows bucket id first) where
  failed c cause hext h := by
    have hnot : ¬Deed.Removes bucket id ⟨c, .error cause⟩ := nofun
    refine ⟨h.issued.of_extends hext, fun hkept => h.kept fun d hd => hkept d (by simp [hd]),
      fun ⟨d, hd, hremoves⟩ => ?_⟩
    obtain hd | hd : d ∈ _ ∨ d = _ := by simpa using hd
    · exact h.gone ⟨d, hd, hremoves⟩
    · exact absurd (hd ▸ hremoves) hnot
  done {log w c a left} hdone hsound hd h := by
    have hext := hdone.extends
    refine ⟨h.issued.of_extends hext, fun hkept => ?_, fun ⟨d, hmem, hremoves⟩ => ?_⟩
    · have hlast := hkept ⟨c, .ok a⟩ (by simp)
      obtain ⟨hremoves, -⟩ | ⟨-, hsame⟩ := hdone.object? h.issued hd bucket
      · exact absurd hremoves hlast
      · rw [hsame]
        exact h.kept fun d hd => hkept d (by simp [hd])
    · obtain ⟨-, hnone⟩ | ⟨hnot, hsame⟩ := hdone.object? h.issued hd bucket
      · exact hnone
      · rw [hsame]
        obtain hmem | hmem : d ∈ log ∨ d = ⟨c, .ok a⟩ := by simpa using hmem
        · exact h.gone ⟨d, hmem, hremoves⟩
        · exact absurd (hmem ▸ hremoves) hnot

/-- No two buckets hold an object of the same key. -/
def Store.OneHome (m : Store) : Prop :=
  ∀ id bucket bucket', (m.object? bucket id).isSome → (m.object? bucket' id).isSome →
    bucket = bucket'

/-- A key that is found in one bucket is found in no other. -/
theorem Store.OneHome.absent {m : Store} (h : m.OneHome) (hthere : (m.object? bucket id).isSome)
    {other : BucketId} (hother : other ≠ bucket) : m.object? other id = none := by
  by_contra hsome
  exact hother (h id other bucket (Option.isSome_iff_ne_none.mpr hsome) hthere)

/-- Nothing has moved to another bucket. -/
theorem Store.OneHome.of_fewer {m left : Store} (h : m.OneHome)
    (hfewer : ∀ bucket id, (left.object? bucket id).isSome → (m.object? bucket id).isSome) :
    left.OneHome :=
  fun id bucket bucket' hb hb' => h id bucket bucket' (hfewer bucket id hb) (hfewer bucket' id hb')

theorem Store.OneHome.addObject {m : Store} {o : StoredObject} (h : m.OneHome)
    (hnew : ∀ bucket, m.object? bucket o.info.id = none) : (m.addObject o).OneHome := by
  intro id bucket bucket' hb hb'
  -- The new object is in its own bucket, and nowhere else.
  have honly : ∀ other, ((m.addObject o).object? other o.info.id).isSome →
      other = o.info.bucket := by
    intro other hsome
    rw [Store.object?_addObject, hnew, Option.none_or] at hsome
    split at hsome
    · rename_i hplace
      exact hplace.1
    · cases hsome
  by_cases hid : id = o.info.id
  · subst hid
    exact (honly bucket hb).trans (honly bucket' hb').symm
  · rw [Store.object?_addObject, if_neg fun hplace => hid hplace.2.1, Option.or_none] at hb hb'
    exact h id bucket bucket' hb hb'

theorem recounts_oneHome : Recounts fun _ _ m => m.OneHome where
  failed _ _ _ h := h
  done {log w c a left} hdone hsound hd h := by
    cases hdone with
    | looked => exact h
    | stored => exact Store.OneHome.addObject h fun bucket => hsound.object?_draw hd bucket
    | deletedObject =>
      refine h.of_fewer fun bucket id hsome => ?_
      rw [Store.object?_removeObject] at hsome
      split at hsome
      · cases hsome
      · exact hsome
    | made => exact h.of_fewer fun bucket id hsome => by rwa [Store.object?_addBucket] at hsome
    | deletedBucket =>
      refine h.of_fewer fun bucket id hsome => ?_
      rw [Store.object?_removeBucket] at hsome
      split at hsome
      · cases hsome
      · exact hsome

theorem oneHome_empty : Store.OneHome {} := by
  intro id bucket bucket' hb
  cases hb

/-- An object that is found has a key that was handed out. -/
theorem Store.Sound.issued_of_object? {m : Store} {ids : IdSupply} (h : m.Sound ids)
    (hsome : (m.object? bucket id).isSome) : ids.Issued id := by
  obtain ⟨o, ho⟩ := Option.isSome_iff_exists.mp hsome
  obtain ⟨b, hbucket, hfind⟩ := Store.object?_eq_some ho
  obtain ⟨hmem, rfl⟩ := StoredBucket.find?_eq_some hfind
  exact (h.inside b (Store.bucket?_eq_some hbucket).1).issued o hmem

end Memory

-- ---------------------------------------------------------------------------
-- On a faithful backend
-- ---------------------------------------------------------------------------

namespace Faithful

variable {b : Backend (World σ)} {holds : World σ → Memory.Store → Prop} {w w' : World σ}
  {m m' : Memory.Store} {bucket : BucketId} {id : ObjectId}

/-- What a command that only looks is answered depends on the store that is held. -/
theorem answer_looked (hb : Faithful b holds) (h : holds w m)
    (hd : w.host.ids.Distinct) (c : Command) (hc : c.Complete)
    {answer : Except BackendError c.Answer}
    (hserve : Memory.serve ⟨w.host, m⟩ c = Memory.looked ⟨w.host, m⟩ answer) :
    (b.call c w).answer = some answer := by
  have hafter : (Memory.serve ⟨w.host, m⟩ c).after.host.ids.Distinct := by
    rw [hserve]
    exact hd
  rw [(hb.complete h hc hafter).1, hserve]
  rfl

theorem answer_head (hb : Faithful b holds) (h : holds w m) (hd : w.host.ids.Distinct)
    (bucket : BucketId) (id : ObjectId) :
    (b.call (.headObject bucket id) w).answer = some (match m.object? bucket id with
      | some o => .ok o.info
      | none => .error .notFound) := by
  rw [hb.answer_looked h hd (.headObject bucket id) trivial rfl]
  simp only [Memory.Store.head, (hb.healthy h).2]
  cases m.object? bucket id <;> rfl

theorem readsAlike (hb : Faithful b holds) (h : holds w m) (h' : holds w' m')
    (hd : w.host.ids.Distinct) (hd' : w'.host.ids.Distinct)
    (hsame : m'.object? bucket id = m.object? bucket id) : b.ReadsAlike bucket id w w' where
  head := by rw [hb.answer_head h' hd', hb.answer_head h hd, hsame]
  range offset length := by
    rw [hb.answer_looked h' hd' (.getRange bucket id offset length) trivial rfl,
      hb.answer_looked h hd (.getRange bucket id offset length) trivial rfl]
    simp only [Memory.Store.range, hsame]

theorem missing (hb : Faithful b holds) (h : holds w m) (hd : w.host.ids.Distinct)
    (hnone : m.object? bucket id = none) : b.Missing bucket id w where
  head := by rw [hb.answer_head h hd, hnone]
  range offset length := by
    rw [hb.answer_looked h hd (.getRange bucket id offset length) trivial rfl]
    simp only [Memory.Store.range, hnone]
  delete := by
    refine hb.answer_looked h hd (.deleteObject bucket id) trivial ?_
    simp only [Memory.serve, hnone]

/-- What is found of an object at the end of a history. -/
theorem run_follows (hb : Faithful b holds) {log : List Deed} (hrun : b.Run w log w')
    (h : holds w m) (hissued : w.host.ids.Issued id) (hd : w'.host.ids.Distinct)
    (bucket : BucketId) :
    ∃ m', holds w' m' ∧ Memory.Follows bucket id (m.object? bucket id) log w'.host.ids m' := by
  obtain ⟨m', hm', -, hfollows⟩ :=
    hb.atomic.run_recounts (Memory.recounts_follows bucket id (m.object? bucket id)) [] hrun
      ⟨m, h, hb.sound h, Memory.follows_start hissued bucket m⟩ hd
  exact ⟨m', hm', hfollows⟩

end Faithful

-- ---------------------------------------------------------------------------
-- On either backend
-- ---------------------------------------------------------------------------

open Config (BackendKind)

variable {k : BackendKind} {start earlier w later : World k.Store}
  {before between after : List Deed} {bucket : BucketId} {id : ObjectId} {info : ObjectMeta}

/-- An object that is stored in the world `w` reads the same in every later world, or is
missing there once it has been removed. In another bucket its identifier names nothing,
whether before, then or later. -/
theorem stored_object_written_once (hstart : k.Empty start)
    (hbefore : k.backend.Run start before earlier) (hbetween : k.backend.Run earlier between w)
    (hstored : (k.backend.call (.headObject bucket id) w).answer = some (.ok info))
    (hafter : k.backend.Run w after later) (hd : later.host.ids.Distinct) :
    ((∀ d ∈ after, ¬d.Removes bucket id) → k.backend.ReadsAlike bucket id w later) ∧
    ((∃ d ∈ after, d.Removes bucket id) → k.backend.Missing bucket id later) ∧
    ∀ other, other ≠ bucket →
      k.backend.Missing other id earlier ∧ k.backend.Missing other id later := by
  have hb := k.faithful
  have hd₁ : w.host.ids.Distinct := hd.of_extends (hb.atomic.extends_of_run hafter)
  have hd₀ : earlier.host.ids.Distinct := hd₁.of_extends (hb.atomic.extends_of_run hbetween)
  have hhome : ∀ {v : World k.Store} {log : List Deed}, k.backend.Run start log v →
      v.host.ids.Distinct → ∃ m, k.Holds v m ∧ m.OneHome := by
    intro v log hrun hv
    obtain ⟨m, hm, -, hhome⟩ := hb.atomic.run_recounts Memory.recounts_oneHome [] hrun
      ⟨_, hstart.holds, hb.sound hstart.holds, Memory.oneHome_empty⟩ hv
    exact ⟨m, hm, hhome⟩
  -- Wherever the head is answered, the object is found.
  have hfound : ∀ {m : Memory.Store}, k.Holds w m → (m.object? bucket id).isSome := by
    intro m hm
    cases hobject : m.object? bucket id with
    | some o => rfl
    | none =>
      rw [hb.answer_head hm hd₁, hobject] at hstored
      cases hstored
  obtain ⟨m₀, hm₀, hhome₀⟩ := hhome hbefore hd₀
  obtain ⟨m₁, hm₁, hhome₁⟩ := hhome (hbefore.trans hbetween) hd₁
  have hissued := (hb.sound hm₁).issued_of_object? (hfound hm₁)
  obtain ⟨m₂, hm₂, hfollows⟩ := hb.run_follows hafter hm₁ hissued hd bucket
  refine ⟨fun hkept => hb.readsAlike hm₁ hm₂ hd₁ hd (hfollows.kept hkept),
    fun hgone => hb.missing hm₂ hd (hfollows.gone hgone), fun other hother => ⟨?_, ?_⟩⟩
  · refine hb.missing hm₀ hd₀ ?_
    by_contra hsome
    -- An identifier that was in use elsewhere is not drawn again for this bucket.
    have hother₀ : (m₀.object? other id).isSome := Option.isSome_iff_ne_none.mpr hsome
    obtain ⟨m, hm, hfollows⟩ :=
      hb.run_follows hbetween hm₀ ((hb.sound hm₀).issued_of_object? hother₀) hd₁ bucket
    rw [hhome₀.absent hother₀ hother.symm] at hfollows
    have hthere := hfound hm
    rw [hfollows.absent] at hthere
    cases hthere
  · obtain ⟨m, hm, hfollows⟩ := hb.run_follows hafter hm₁ hissued hd other
    rw [hhome₁.absent (hfound hm₁) hother] at hfollows
    exact hb.missing hm hd hfollows.absent

/-- An object that is stored in memory and then deleted. -/
theorem stored_object_written_once_deleted :
    let b := BackendKind.memory.backend
    let start : World Memory.Store := ⟨{ ids := ⟨BitVec.ofNat 128, 0⟩ }, {}⟩
    let bucket := b.after start [.putBucket { owner := Id.nil }]
    let object := b.after bucket.2
      [.putObject { bucket := ⟨0⟩, owner := Id.nil } (.ofChunks [[1, 2], [3]])]
    let later := b.after object.2 [.searchObjects ⟨0⟩ [], .deleteObject ⟨0⟩ ⟨1⟩]
    BackendKind.memory.Empty start ∧
    b.Run start bucket.1 bucket.2 ∧ b.Run bucket.2 object.1 object.2 ∧
    (b.call (.headObject ⟨0⟩ ⟨1⟩) object.2).answer =
      some (.ok ⟨⟨1⟩, ⟨0⟩, Id.nil, 3, {}⟩) ∧
    b.Run object.2 later.1 later.2 ∧ later.2.host.ids.Distinct ∧
    (∃ d ∈ later.1, d.Removes ⟨0⟩ ⟨1⟩) ∧ b.Missing ⟨0⟩ ⟨1⟩ later.2 ∧
    b.Missing ⟨7⟩ ⟨1⟩ bucket.2 ∧ b.Missing ⟨7⟩ ⟨1⟩ later.2 := by
  intro b start bucket object later
  have hempty : BackendKind.memory.Empty start := ⟨rfl, rfl, rfl⟩
  have hbucket : b.Run start bucket.1 bucket.2 := b.run_after _ _
  have hobject : b.Run bucket.2 object.1 object.2 := b.run_after _ _
  have hlater : b.Run object.2 later.1 later.2 := b.run_after _ _
  have hstored : (b.call (.headObject ⟨0⟩ ⟨1⟩) object.2).answer =
      some (.ok ⟨⟨1⟩, ⟨0⟩, Id.nil, 3, {}⟩) := rfl
  have hd : later.2.host.ids.Distinct := IdSupply.distinct_counting (n := 2) (by decide)
  have hremoved : ∃ d ∈ later.1, d.Removes ⟨0⟩ ⟨1⟩ :=
    ⟨_, List.mem_cons_of_mem _ List.mem_cons_self, .object⟩
  obtain ⟨-, hgone, hothers⟩ :=
    stored_object_written_once hempty hbucket hobject hstored hlater hd
  exact ⟨hempty, hbucket, hobject, hstored, hlater, hd, hremoved, hgone hremoved,
    hothers ⟨7⟩ (by decide)⟩

end ObjectGateway
