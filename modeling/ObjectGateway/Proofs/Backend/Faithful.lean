import ObjectGateway.Proofs.Memory.Serving
/-!
# Faithful backends

A backend is faithful when its states can be read as stores in memory, such that every
call answers and leaves what the call does there. Uploads that never get to the end of
their stream, and calls that are given up while they wait, must leave what was held.
All that is proved of programs on a faithful backend holds of both backends.
-/
namespace ObjectGateway

variable {σ : Type}

/-- `holds w m` reads the state `w` of the backend `b` as the store `m`. -/
structure Faithful (b : Backend (World σ)) (holds : World σ → Memory.Store → Prop) : Prop where
  healthy : ∀ {w m}, holds w m → m.Healthy
  sound : ∀ {w m}, holds w m → m.Sound w.host.ids
  /-- What a store has counted does not matter. -/
  alike : ∀ {w m m'}, holds w m → m'.Healthy → m'.buckets = m.buckets → holds w m'
  /-- The same keys are drawn. -/
  ids : ∀ {w m c}, holds w m → c.Complete →
    (b.call c w).after.host.ids = (Memory.serve ⟨w.host, m⟩ c).after.host.ids
  complete : ∀ {w m c}, holds w m → c.Complete →
    (Memory.serve ⟨w.host, m⟩ c).after.host.ids.Distinct →
    (b.call c w).answer = (Memory.serve ⟨w.host, m⟩ c).answer ∧
      holds (b.call c w).after (Memory.serve ⟨w.host, m⟩ c).after.store
  incomplete : ∀ {w m c}, holds w m → ¬c.Complete →
    (∀ answer, (b.call c w).answer ≠ some (.ok answer)) ∧ holds (b.call c w).after m
  firstWait : ∀ {w m c left}, holds w m → (b.call c w).firstWait = some left → holds left m
  /-- No call puts a key back. -/
  extends_after : ∀ w c, (b.call c w).after.host.ids.Extends w.host.ids
  extends_firstWait : ∀ {w c left}, (b.call c w).firstWait = some left →
    left.host.ids.Extends w.host.ids

/-! ## Requests on a faithful backend -/

/-- A complete command is answered on a store that answers. -/
theorem Memory.serve_answers (w : World Memory.Store) {c : Command} (hc : c.Complete) :
    ∃ answer, (Memory.serve w c).answer = some answer := by
  cases c with
  | putObject header payload =>
    obtain ⟨chunks, hdrain⟩ := hc
    simp only [serve, hdrain]
    exact ⟨_, rfl⟩
  | deleteObject bucket id =>
    simp only [serve]
    cases w.store.object? bucket id with
    | none => exact ⟨_, rfl⟩
    | some o => exact ⟨_, rfl⟩
  | deleteBucket id =>
    simp only [serve]
    cases w.store.bucket? id with
    | none => exact ⟨_, rfl⟩
    | some b => exact ⟨_, rfl⟩
  | _ => exact ⟨_, rfl⟩

namespace Faithful

variable {b : Backend (World σ)} {holds : World σ → Memory.Store → Prop} {w : World σ}
  {m : Memory.Store} {c : Command}

/-- A command that is carried out: its answer, and the state it leaves. -/
structure Served (holds : World σ → Memory.Store → Prop) (w : World σ) (m : Memory.Store)
    (c : Command) (r : Except BackendError c.Answer × World σ) : Prop where
  answer : (Memory.serve ⟨w.host, m⟩ c).answer = some r.1
  holds : holds r.2 (Memory.serve ⟨w.host, m⟩ c).after.store
  ids : r.2.host.ids = (Memory.serve ⟨w.host, m⟩ c).after.host.ids

/-- A command that comes to nothing: it fails, and the store is as it was. -/
structure Refused (holds : World σ → Memory.Store → Prop) (m : Memory.Store) {α : Type}
    (r : Except BackendError α × World σ) : Prop where
  failed : ∃ cause, r.1 = .error cause
  holds : holds r.2 m

/-- However a request goes, keys are only ever drawn. -/
theorem settle_extends (hb : Faithful b holds) (ctx : Context) (w : World σ) (c : Command) :
    (ctx.settle w (b.call c w)).2.host.ids.Extends w.host.ids := by
  have houtcome := ctx.settle_outcome w (b.call c w)
  generalize ctx.settle w (b.call c w) = r at houtcome
  cases houtcome with
  | answered => exact hb.extends_after w c
  | unmade => exact .refl _
  | gaveUp hwait => exact hb.extends_firstWait hwait
  | unanswered => exact hb.extends_after w c

/-- A live request for a complete command is carried out. -/
theorem settle_live (hb : Faithful b holds) (h : holds w m) {ctx : Context} (hlive : ctx.Live)
    (hc : c.Complete) (hd : (ctx.settle w (b.call c w)).2.host.ids.Distinct) :
    Served holds w m c (ctx.settle w (b.call c w)) := by
  obtain ⟨answer, hanswer⟩ := Memory.serve_answers ⟨w.host, m⟩ hc
  rw [Context.settle_live_after hlive, hb.ids h hc] at hd
  obtain ⟨hsame, hholds⟩ := hb.complete h hc hd
  rw [Context.settle_live hlive (hsame.trans hanswer)]
  exact ⟨hanswer, hholds, hb.ids h hc⟩

/-- A request for a complete command is carried out, or comes to nothing. -/
theorem settle_complete (hb : Faithful b holds) (h : holds w m) (ctx : Context)
    (hc : c.Complete) (hd : (ctx.settle w (b.call c w)).2.host.ids.Distinct) :
    Served holds w m c (ctx.settle w (b.call c w)) ∨
      Refused holds m (ctx.settle w (b.call c w)) := by
  have houtcome := ctx.settle_outcome w (b.call c w)
  generalize ctx.settle w (b.call c w) = r at houtcome hd
  -- A complete command is always answered, so nobody waits for it in vain.
  cases houtcome with
  | answered hanswer =>
    rw [hb.ids h hc] at hd
    obtain ⟨hsame, hholds⟩ := hb.complete h hc hd
    exact .inl ⟨hsame ▸ hanswer, hholds, hb.ids h hc⟩
  | unmade => exact .inr ⟨⟨_, rfl⟩, h⟩
  | gaveUp hwait => exact .inr ⟨⟨_, rfl⟩, hb.firstWait h hwait⟩
  | unanswered hnone =>
    rw [hb.ids h hc] at hd
    obtain ⟨answer, hanswer⟩ := Memory.serve_answers ⟨w.host, m⟩ hc
    rw [(hb.complete h hc hd).1, hanswer] at hnone
    cases hnone

/-- A request for an upload that does not get to the end of its stream comes to
nothing. -/
theorem settle_incomplete (hb : Faithful b holds) (h : holds w m) (ctx : Context)
    (hc : ¬c.Complete) : Refused holds m (ctx.settle w (b.call c w)) := by
  obtain ⟨hnever, hholds⟩ := hb.incomplete h hc
  have houtcome := ctx.settle_outcome w (b.call c w)
  generalize ctx.settle w (b.call c w) = r at houtcome
  cases houtcome with
  | @answered answer hanswer =>
    cases answer with
    | ok value => exact absurd hanswer (hnever value)
    | error cause => exact ⟨⟨_, rfl⟩, hholds⟩
  | unmade => exact ⟨⟨_, rfl⟩, h⟩
  | gaveUp hwait => exact ⟨⟨_, rfl⟩, hb.firstWait h hwait⟩
  | unanswered => exact ⟨⟨_, rfl⟩, hholds⟩

end Faithful

/-- A property of stores, with the keys that were handed out, which the commands of the
kind `A` keep when they are served. -/
structure Memory.Keeps (A : Command → Prop) (I : IdSupply → Memory.Store → Prop) : Prop where
  later : ∀ {ids ids' m}, ids'.Extends ids → I ids m → I ids' m
  serve : ∀ {w : World Memory.Store} {c}, A c → w.store.Sound w.host.ids →
    (Memory.serve w c).after.host.ids.Distinct → I w.host.ids w.store →
    I (Memory.serve w c).after.host.ids (Memory.serve w c).after.store

theorem Memory.Keeps.and {A : Command → Prop} {I J : IdSupply → Memory.Store → Prop}
    (hI : Memory.Keeps A I) (hJ : Memory.Keeps A J) :
    Memory.Keeps A fun ids m => I ids m ∧ J ids m where
  later hext h := ⟨hI.later hext h.1, hJ.later hext h.2⟩
  serve hc hsound hd h := ⟨hI.serve hc hsound hd h.1, hJ.serve hc hsound hd h.2⟩

/-- Such a property is kept on a faithful backend, however a request goes. -/
theorem Faithful.settle_keeps {b : Backend (World σ)} {holds : World σ → Memory.Store → Prop}
    {A : Command → Prop} {I : IdSupply → Memory.Store → Prop} (hb : Faithful b holds)
    (hkeeps : Memory.Keeps A I) {w : World σ} (h : ∃ m, holds w m ∧ I w.host.ids m)
    (ctx : Context) {c : Command} (hc : A c)
    (hd : (ctx.settle w (b.call c w)).2.host.ids.Distinct) :
    ∃ m, holds (ctx.settle w (b.call c w)).2 m ∧ I (ctx.settle w (b.call c w)).2.host.ids m := by
  obtain ⟨m, hm, hI⟩ := h
  have hrefused : Refused holds m (ctx.settle w (b.call c w)) →
      ∃ m, holds (ctx.settle w (b.call c w)).2 m ∧
        I (ctx.settle w (b.call c w)).2.host.ids m := fun hr =>
    ⟨m, hr.holds, hkeeps.later (hb.settle_extends ctx w c) hI⟩
  -- A command that is refused changes nothing, but it may have drawn keys.
  by_cases hcomplete : c.Complete
  · obtain hserved | hr := hb.settle_complete hm ctx hcomplete hd
    · refine ⟨_, hserved.holds, ?_⟩
      rw [hserved.ids] at hd ⊢
      exact hkeeps.serve hc (hb.sound hm) hd hI
    · exact hrefused hr
  · exact hrefused (hb.settle_incomplete hm ctx hcomplete)

/-! ## The store in memory -/

namespace Memory

/-- A store in memory holds what it holds, whatever it has counted. -/
def Holds (w : World Store) (m : Store) : Prop :=
  w.store.Alike m ∧ m.Sound w.host.ids

variable {w : World Store} {m : Store} {c : Command}

def counted (w : World Store) : World Store :=
  { w with store := { w.store with calls := w.store.calls + 1 } }

theorem Holds.counted (h : Holds w m) : Holds (counted w) m :=
  ⟨⟨h.1.left, h.1.right, h.1.buckets⟩, h.2⟩

theorem Holds.call_eq (h : Holds w m) (c : Command) :
    backend.call c w = serve (Memory.counted w) c := by
  simp [backend, call, Memory.counted, h.1.left.1]

theorem Holds.served (h : Holds w m) (c : Command)
    (hd : (serve ⟨w.host, m⟩ c).after.host.ids.Distinct) :
    Holds (serve w c).after (serve ⟨w.host, m⟩ c).after.store := by
  obtain ⟨-, hhost, halike⟩ := serve_alike _ h.1 c
  exact ⟨halike, congrArg Host.ids hhost ▸ serve_sound (w := ⟨w.host, m⟩) h.2 c hd⟩

/-- An upload that does not get to the end of its stream leaves everything as it is. -/
theorem serve_incomplete (w : World Store) (hc : ¬c.Complete) :
    (∀ answer, (serve w c).answer ≠ some (.ok answer)) ∧ (serve w c).after = w := by
  cases c with
  | putObject header payload =>
    simp only [serve]
    cases hdrain : payload.drain with
    | complete chunks => exact absurd ⟨chunks, hdrain⟩ hc
    | failed cause => exact ⟨by simp [looked, answered], rfl⟩
    | waiting chunks => exact ⟨by simp [waiting], rfl⟩
  | _ => exact absurd trivial hc

/-- A call that waits has changed nothing. -/
theorem serve_firstWait {w left : World Store} (h : (serve w c).firstWait = some left) :
    left = w := by
  cases c with
  | putObject header payload =>
    simp only [serve] at h
    cases hdrain : payload.drain with
    | waiting chunks => simpa [hdrain, waiting, eq_comm] using h
    | _ => simp [hdrain, looked, answered] at h
  | deleteObject bucket id =>
    simp only [serve] at h
    cases hobject : w.store.object? bucket id <;> simp [hobject, looked, answered] at h
  | deleteBucket id =>
    simp only [serve] at h
    cases hbucket : w.store.bucket? id <;> simp [hbucket, looked, answered] at h
  | _ => simp [serve, looked, answered] at h

/-- So it has been counted, and that is all. -/
theorem firstWait_counted {left : World Store}
    (h : (backend.call c w).firstWait = some left) : left = counted w := by
  simp only [backend, call] at h
  split at h
  · cases h
    rfl
  · exact serve_firstWait h

theorem faithful : Faithful backend Holds where
  healthy h := h.1.right
  sound h := h.2
  alike h hhealthy hbuckets :=
    ⟨⟨h.1.left, hhealthy, h.1.buckets.trans hbuckets.symm⟩,
      ⟨hbuckets ▸ h.2.distinct, hbuckets ▸ h.2.issued, hbuckets ▸ h.2.inside⟩⟩
  ids {w m c} h _ := by
    rw [h.call_eq]
    exact congrArg Host.ids (serve_alike _ h.counted.1 c).2.1
  complete {w m c} h _ hd := by
    rw [h.call_eq]
    exact ⟨(serve_alike _ h.counted.1 c).1, h.counted.served c hd⟩
  incomplete {w m c} h hc := by
    obtain ⟨hnever, hafter⟩ := serve_incomplete (counted w) hc
    rw [h.call_eq, hafter]
    exact ⟨hnever, h.counted⟩
  firstWait {w m c left} h hwait := by
    rw [h.call_eq] at hwait
    rw [serve_firstWait hwait]
    exact h.counted
  extends_after w c := by
    simp only [backend, call]
    split
    · exact .refl _
    · exact serve_extends (counted w) c
  extends_firstWait {w c left} hwait := by
    simp only [backend, call] at hwait
    split at hwait
    · cases hwait
      exact .refl _
    · rw [serve_firstWait hwait]
      exact .refl _

end Memory
end ObjectGateway
