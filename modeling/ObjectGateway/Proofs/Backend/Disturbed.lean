import ObjectGateway.Proofs.Backend.Program
/-!
# Calls that come to nothing

Any call of an operation may fail before it has an effect: the backend refuses it, or the
request is cancelled or out of time. Where in the operation this happens, and how often, is
a disturbance. What an operation does under every disturbance is said of stores in memory,
and holds of all backends whose calls are carried out or come to nothing.
-/
namespace ObjectGateway

variable {σ α β : Type}

-- ---------------------------------------------------------------------------
-- Disturbed runs
-- ---------------------------------------------------------------------------

/-- The failures that are imposed on the calls of an operation, by the number of calls
made before. A call on which none is imposed goes to the backend. -/
abbrev Disturbance := Nat → Option BackendError

namespace Context

/-- Calls go to a backend under a context unless a failure is imposed on them. The calls
made so far are counted. -/
def disturbed (ctx : Context) (d : Disturbance) (b : Backend (World σ)) :
    Program.Interpreter (Nat × World σ) where
  call c s :=
    match d s.1 with
    | some cause => (.error cause, s.1 + 1, s.2)
    | none =>
      let (answer, w) := ctx.settle s.2 (b.call c s.2)
      (answer, s.1 + 1, w)
  host a s :=
    let (answer, host) := a.perform s.2.host
    (answer, s.1, { s.2 with host })

def runUnder (ctx : Context) (d : Disturbance) (b : Backend (World σ)) (p : Program α)
    (w : World σ) : α × World σ :=
  let (a, _, left) := p.run (ctx.disturbed d b) (0, w)
  (a, left)

section Calls

variable {ctx : Context} {d : Disturbance} {n : Nat}

theorem disturbed_call_failed {cause : BackendError} (h : d n = some cause)
    (b : Backend (World σ)) (c : Command) (w : World σ) :
    (ctx.disturbed d b).call c (n, w) = (.error cause, n + 1, w) := by
  simp only [disturbed, h]

theorem disturbed_call_settled (h : d n = none) (b : Backend (World σ)) (c : Command)
    (w : World σ) :
    (ctx.disturbed d b).call c (n, w) =
      ((ctx.settle w (b.call c w)).1, n + 1, (ctx.settle w (b.call c w)).2) := by
  simp only [disturbed, h]

end Calls

theorem run_disturbed_none (ctx : Context) (b : Backend (World σ)) (p : Program α) (n : Nat)
    (w : World σ) :
    (p.run (ctx.disturbed (fun _ => none) b) (n, w)).1 = (ctx.run b p w).1 ∧
      (p.run (ctx.disturbed (fun _ => none) b) (n, w)).2.2 = (ctx.run b p w).2 := by
  -- The count only matters to the disturbance.
  induction p generalizing n w with
  | done a => exact ⟨rfl, rfl⟩
  | call c next ih => exact ih _ _ _
  | host a next ih => exact ih _ _ _

/-- Without a disturbance a program runs as it does. -/
theorem runUnder_none (ctx : Context) (b : Backend (World σ)) (p : Program α) (w : World σ) :
    ctx.runUnder (fun _ => none) b p w = ctx.run b p w := by
  obtain ⟨hresult, hleft⟩ := ctx.run_disturbed_none b p 0 w
  exact Prod.ext hresult hleft

end Context

-- ---------------------------------------------------------------------------
-- Backends of which no call is carried out by half
-- ---------------------------------------------------------------------------

/-- `holds w m` reads the state `w` of the backend `b` as the store `m`, such that every call
is carried out as it is there, or comes to nothing. -/
structure Atomic (b : Backend (World σ)) (holds : World σ → Memory.Store → Prop) : Prop where
  settle : ∀ {w m} (ctx : Context) (c : Command), holds w m →
    (ctx.settle w (b.call c w)).2.host.ids.Distinct →
    Faithful.Served holds w m c (ctx.settle w (b.call c w)) ∨
      Faithful.Refused holds m (ctx.settle w (b.call c w))
  extends_settle : ∀ (ctx : Context) w c,
    (ctx.settle w (b.call c w)).2.host.ids.Extends w.host.ids

/-- The calls of a faithful backend only fail when there is nothing to carry out. -/
theorem Faithful.atomic {b : Backend (World σ)} {holds : World σ → Memory.Store → Prop}
    (hb : Faithful b holds) : Atomic b holds where
  settle ctx c h hd := by
    by_cases hc : c.Complete
    · exact hb.settle_complete h ctx hc hd
    · exact .inr (hb.settle_incomplete h ctx hc)
  extends_settle := hb.settle_extends

namespace Atomic

variable {b : Backend (World σ)} {holds : World σ → Memory.Store → Prop}

/-- The store that is read off stays in order. -/
theorem sound (hb : Atomic b holds) : Atomic b fun w m => holds w m ∧ m.Sound w.host.ids where
  settle {w m} ctx c h hd := by
    obtain ⟨hheld, hsound⟩ := h
    obtain hserved | hrefused := hb.settle ctx c hheld hd
    · left
      have hids := hserved.ids
      rw [hids] at hd
      exact ⟨hserved.answer,
        ⟨hserved.holds, hids ▸ Memory.serve_sound (w := ⟨w.host, m⟩) hsound c hd⟩, hids⟩
    · exact .inr ⟨hrefused.failed, hrefused.holds, hsound.of_extends (hb.extends_settle ctx w c)⟩
  extends_settle := hb.extends_settle

/-- What every call keeps can be read off, too. -/
theorem keeping (hb : Atomic b holds) {J : World σ → Prop}
    (hJ : ∀ (ctx : Context) w c, J w → J (ctx.settle w (b.call c w)).2) :
    Atomic b fun w m => holds w m ∧ J w where
  settle {w m} ctx c h hd := by
    have hkept := hJ ctx w c h.2
    obtain hserved | hrefused := hb.settle ctx c h.1 hd
    · exact .inl ⟨hserved.answer, ⟨hserved.holds, hkept⟩, hserved.ids⟩
    · exact .inr ⟨hrefused.failed, hrefused.holds, hkept⟩
  extends_settle := hb.extends_settle

end Atomic

namespace Memory

/-- A store in memory holds the buckets that it holds, whether it answers or not and
whatever it has been told to fail for. -/
def Stocks (w : World Store) (m : Store) : Prop :=
  m.Healthy ∧ w.store.buckets = m.buckets

/-- The store without what it has been told. -/
def Store.healed (s : Store) : Store :=
  { s with failingHeads := [], stalled := false }

/-- The command does not look for a head that the store has been told to fail for. -/
def Store.Answers (s : Store) (c : Command) : Prop :=
  ∀ bucket id, c = .headObject bucket id → id ∉ s.failingHeads

/-- A call that looks for no such head goes as it does on the healed store. -/
theorem serve_answering {w : World Store} {c : Command} (h : w.store.Answers c) :
    (serve ⟨w.host, w.store.healed⟩ c).answer = (serve w c).answer ∧
      (serve ⟨w.host, w.store.healed⟩ c).after.host = (serve w c).after.host ∧
      (serve ⟨w.host, w.store.healed⟩ c).after.store.buckets = (serve w c).after.store.buckets := by
  cases c with
  | headObject bucket id =>
    have hhead : w.store.failingHeads.contains id = false := by simpa using h bucket id rfl
    refine ⟨?_, rfl, rfl⟩
    simp only [serve, looked, answered, Store.head, hhead]
    rfl
  | putObject header payload =>
    simp only [serve]
    cases payload.drain with
    | complete chunks =>
      simp only [answered, upload]
      have hhealed : w.store.healed.bucket? header.bucket = w.store.bucket? header.bucket := rfl
      rw [hhealed]
      cases w.store.bucket? header.bucket with
      | none => exact ⟨rfl, rfl, rfl⟩
      | some b => exact ⟨rfl, rfl, rfl⟩
    | _ => exact ⟨rfl, rfl, rfl⟩
  | deleteObject bucket id =>
    have hhealed : w.store.healed.object? bucket id = w.store.object? bucket id := rfl
    simp only [serve, hhealed]
    cases w.store.object? bucket id with
    | none => exact ⟨rfl, rfl, rfl⟩
    | some o => exact ⟨rfl, rfl, rfl⟩
  | deleteBucket id =>
    have hhealed : w.store.healed.bucket? id = w.store.bucket? id := rfl
    simp only [serve, hhealed]
    cases w.store.bucket? id with
    | none => exact ⟨rfl, rfl, rfl⟩
    | some b => exact ⟨rfl, rfl, rfl⟩
  | _ => exact ⟨rfl, rfl, rfl⟩

/-- A call that succeeds looks for no head that fails. -/
theorem answers_of_ok {w : World Store} {c : Command} {a : c.Answer}
    (h : (serve w c).answer = some (.ok a)) : w.store.Answers c := by
  rintro bucket id rfl hfails
  simp [serve, looked, answered, Store.head, hfails] at h

theorem Stocks.counted {w : World Store} {m : Store} (h : Stocks w m) : Stocks (counted w) m :=
  h

/-- A call that looks for no head that fails is carried out as it is on the store that is held. -/
theorem Stocks.served {w : World Store} {m : Store} (h : Stocks w m) {c : Command}
    (hanswers : w.store.Answers c) {answer : Except BackendError c.Answer}
    (ha : (serve w c).answer = some answer) :
    Faithful.Served Stocks w m c (answer, (serve w c).after) := by
  obtain ⟨hanswer, hhost, hbuckets⟩ := serve_answering hanswers
  have halike : w.store.healed.Alike m := ⟨⟨rfl, rfl⟩, h.1, h.2⟩
  obtain ⟨hsame, hhost', halike'⟩ := serve_alike w.host halike c
  exact
    { answer := hsame.symm.trans (hanswer.trans ha)
      holds := ⟨halike'.right, hbuckets.symm.trans halike'.buckets⟩
      ids := congrArg Host.ids (hhost.symm.trans hhost') }

/-- Whatever it has been told, a store in memory carries a call out or lets it come to
nothing. -/
theorem atomic : Atomic backend Stocks where
  settle {w m} ctx c h _ := by
    have houtcome := ctx.settle_outcome w (backend.call c w)
    generalize ctx.settle w (backend.call c w) = r at houtcome
    simp only [backend, call] at houtcome
    split at houtcome
    · -- A stalled store answers nothing, so the caller gives up.
      cases houtcome with
      | answered hanswer => cases hanswer
      | unmade => exact .inr ⟨⟨_, rfl⟩, h⟩
      | gaveUp hwait =>
        cases hwait
        exact .inr ⟨⟨_, rfl⟩, h.counted⟩
      | unanswered => exact .inr ⟨⟨_, rfl⟩, h.counted⟩
    · change Context.Outcome ctx w (serve (counted w) c) r at houtcome
      cases houtcome with
      | @answered answer hanswer =>
        cases answer with
        | ok a =>
          have hserved := h.counted.served (answers_of_ok hanswer) hanswer
          exact .inl ⟨hserved.answer, hserved.holds, hserved.ids⟩
        | error cause =>
          rw [serve_error hanswer]
          exact .inr ⟨⟨_, rfl⟩, h.counted⟩
      | unmade => exact .inr ⟨⟨_, rfl⟩, h⟩
      | gaveUp hwait =>
        rw [serve_firstWait hwait]
        exact .inr ⟨⟨_, rfl⟩, h.counted⟩
      | unanswered hnone =>
        obtain ⟨a, ha, -⟩ | ⟨-, hafter⟩ := serve_cases (counted w) c
        · rw [hnone] at ha
          cases ha
        · rw [hafter]
          exact .inr ⟨⟨_, rfl⟩, h.counted⟩
  extends_settle ctx w c := faithful.settle_extends ctx w c

end Memory

-- ---------------------------------------------------------------------------
-- What a program ends with
-- ---------------------------------------------------------------------------

/-- Started on `m`, the program ends with a result and a store that satisfy `Q`, whichever
of its calls are carried out and whichever come to nothing. -/
def Program.Ends (Q : α → Memory.Store → Prop) : Program α → Memory.Store → Prop
  | done a, m => Q a m
  | call c next, m =>
    (∀ host answer, (Memory.serve ⟨host, m⟩ c).answer = some answer →
      (next answer).Ends Q (Memory.serve ⟨host, m⟩ c).after.store) ∧
    ∀ cause, (next (.error cause)).Ends Q m
  | host (.openUnnamed _) next, m => ∀ answer, (next answer).Ends Q m
  | host _ _, _ => False

namespace Program

variable {Q : α → Memory.Store → Prop} {R : β → Memory.Store → Prop} {p : Program α}
  {k : α → Program β} {m : Memory.Store}

theorem Ends.bind (hp : p.Ends Q m) (hk : ∀ a left, Q a left → (k a).Ends R left) :
    (p.bind k).Ends R m := by
  induction p generalizing m with
  | done a => exact hk a m hp
  | call c next ih =>
    exact ⟨fun host answer hanswer => ih answer (hp.1 host answer hanswer),
      fun cause => ih _ (hp.2 cause)⟩
  | host a next ih =>
    cases a with
    | openUnnamed dir => exact fun answer => ih answer (hp answer)
    | _ => exact hp.elim

theorem Ends.imp {Q' : α → Memory.Store → Prop} (hp : p.Ends Q m)
    (himp : ∀ a left, Q a left → Q' a left) : p.Ends Q' m := by
  rw [← bind_done p]
  exact hp.bind himp

variable {b : Backend (World σ)} {holds : World σ → Memory.Store → Prop}

/-- Under a disturbance, too, keys are only ever drawn. -/
theorem run_disturbed_extends (hb : Atomic b holds) (ctx : Context) (d : Disturbance)
    (p : Program α) (n : Nat) (w : World σ) :
    (p.run (ctx.disturbed d b) (n, w)).2.2.host.ids.Extends w.host.ids := by
  induction p generalizing n w with
  | done a => exact .refl _
  | call c next ih =>
    unfold run
    cases hd : d n with
    | some cause =>
      rw [Context.disturbed_call_failed hd]
      exact ih _ _ _
    | none =>
      rw [Context.disturbed_call_settled hd]
      exact (ih _ _ _).trans (hb.extends_settle ctx w c)
  | host a next ih => exact (ih _ _ _).trans (a.perform_extends w.host)

theorem runUnder_extends (hb : Atomic b holds) (ctx : Context) (d : Disturbance)
    (p : Program α) (w : World σ) : (ctx.runUnder d b p w).2.host.ids.Extends w.host.ids :=
  run_disturbed_extends hb ctx d p 0 w

/-- What is said of stores in memory holds of every backend of which no call is carried out
by half, under every disturbance. -/
theorem Ends.runUnder (hb : Atomic b holds) (hp : p.Ends Q m) {w : World σ} (h : holds w m)
    (ctx : Context) (d : Disturbance) (hd : (ctx.runUnder d b p w).2.host.ids.Distinct) :
    ∃ left, holds (ctx.runUnder d b p w).2 left ∧ Q (ctx.runUnder d b p w).1 left := by
  unfold Context.runUnder at hd ⊢
  generalize 0 = n at hd ⊢
  induction p generalizing m n w with
  | done a => exact ⟨m, h, hp⟩
  | call c next ih =>
    unfold run at hd ⊢
    cases hfail : d n with
    | some cause =>
      rw [Context.disturbed_call_failed hfail] at hd ⊢
      exact ih _ (hp.2 cause) h _ hd
    | none =>
      rw [Context.disturbed_call_settled hfail] at hd ⊢
      have hd' := hd.of_extends (run_disturbed_extends hb ctx d _ _ _)
      obtain hserved | hrefused := hb.settle ctx c h hd'
      · exact ih _ (hp.1 w.host _ hserved.answer) hserved.holds _ hd
      · obtain ⟨cause, hcause⟩ := hrefused.failed
        have hnext := hp.2 cause
        rw [← hcause] at hnext
        exact ih _ hnext hrefused.holds _ hd
  | host a next ih =>
    cases a with
    | openUnnamed dir => exact ih _ (hp _) h _ hd
    | _ => exact hp.elim

end Program

-- ---------------------------------------------------------------------------
-- Operations that do all or nothing
-- ---------------------------------------------------------------------------

namespace FsProgram

variable {m : Memory.Store} {p : FsProgram α} {k : α → FsProgram β} {P : α → Prop}
  {Q : α → Memory.Store → Prop} {R : β → Memory.Store → Prop}

/-- However its calls go, the operation leaves the store as it was when it fails, and when
it succeeds its result and the store satisfy `Q`. -/
def AllOrNothing (m : Memory.Store) (p : FsProgram α) (Q : α → Memory.Store → Prop) : Prop :=
  Program.Ends (fun r left => (∀ cause, r = .error cause → left = m) ∧
    ∀ a, r = .ok a → Q a left) p.run m

/-- However its calls go, the operation leaves the store as it was, and a result that it
has is of the kind `P`. -/
def Looks (m : Memory.Store) (p : FsProgram α) (P : α → Prop) : Prop :=
  AllOrNothing m p fun a left => left = m ∧ P a

/-- A result that an operation may have, with the store that it leaves. -/
theorem AllOrNothing.of_ok {a : α} {left : Memory.Store} (h : Q a left) :
    (∀ cause : FsError, (Except.ok a : Except FsError α) = .error cause → left = m) ∧
      ∀ a', (Except.ok a : Except FsError α) = .ok a' → Q a' left := by
  constructor
  · rintro _ ⟨⟩
  · rintro _ ⟨⟩
    exact h

/-- A failure, which leaves the store as it was. -/
theorem AllOrNothing.of_error (cause : FsError) :
    (∀ cause' : FsError, (Except.error cause : Except FsError α) = .error cause' → m = m) ∧
      ∀ a, (Except.error cause : Except FsError α) = .ok a → Q a m := by
  constructor
  · intro _ _
    rfl
  · rintro _ ⟨⟩

theorem AllOrNothing.pure {a : α} (h : Q a m) : AllOrNothing m (pure a) Q :=
  of_ok h

theorem Looks.pure {a : α} (h : P a) : Looks m (pure a) P :=
  AllOrNothing.pure ⟨rfl, h⟩

theorem AllOrNothing.throw (cause : FsError) : AllOrNothing m (throw cause) Q :=
  of_error cause

/-- A call that is carried out has the effect that it has, and one that fails has none. -/
theorem AllOrNothing.call {path : String} {c : Command} {Q : c.Answer → Memory.Store → Prop}
    (h : ∀ host a, (Memory.serve ⟨host, m⟩ c).answer = some (.ok a) →
      Q a (Memory.serve ⟨host, m⟩ c).after.store) :
    AllOrNothing m (FsProgram.call path c) Q := by
  refine ⟨?_, fun cause => of_error _⟩
  intro host answer hanswer
  cases answer with
  | ok a => exact of_ok (h host a hanswer)
  | error cause =>
    rw [Memory.serve_error hanswer]
    exact of_error _

/-- Looks may come before anything that does all or nothing. -/
theorem Looks.bind (hp : Looks m p P) (hk : ∀ a, P a → AllOrNothing m (k a) R) :
    AllOrNothing m (p >>= k) R := by
  refine Program.Ends.bind hp ?_
  intro r left hr
  cases r with
  | ok a =>
    obtain ⟨rfl, ha⟩ := hr.2 a rfl
    exact hk a ha
  | error cause =>
    obtain rfl := hr.1 cause rfl
    exact AllOrNothing.throw cause

theorem AllOrNothing.imp {Q' : α → Memory.Store → Prop} (h : AllOrNothing m p Q)
    (himp : ∀ a left, Q a left → Q' a left) : AllOrNothing m p Q' := by
  refine Program.Ends.imp h ?_
  intro r left hr
  exact ⟨hr.1, fun a ha => himp a left (hr.2 a ha)⟩

theorem AllOrNothing.map {f : α → β} (hp : AllOrNothing m p fun a left => R (f a) left) :
    AllOrNothing m (f <$> p) R := by
  rw [map_eq_pure_bind]
  refine Program.Ends.bind hp ?_
  intro r left hr
  cases r with
  | ok a => exact of_ok (hr.2 a rfl)
  | error cause =>
    obtain rfl := hr.1 cause rfl
    exact of_error cause

theorem Looks.map {f : α → β} {S : β → Prop} (hp : Looks m p fun a => S (f a)) :
    Looks m (f <$> p) S :=
  AllOrNothing.map hp

theorem Looks.imp {P' : α → Prop} (h : Looks m p P) (himp : ∀ a, P a → P' a) : Looks m p P' :=
  AllOrNothing.imp h fun a _ ha => ⟨ha.1, himp a ha.2⟩

/-- Nothing follows a failure. -/
theorem AllOrNothing.throw_bind (cause : FsError) :
    AllOrNothing m ((MonadExcept.throw cause : FsProgram α) >>= k) R :=
  Looks.bind (P := fun _ => False) (.throw cause) fun _ h => h.elim

/-- Whether a file without a name can be opened does not matter to the store. -/
theorem AllOrNothing.openUnnamed {dir : Option String} {k : Except IoError Unit → FsProgram β}
    (hok : AllOrNothing m (k (.ok ())) R) (herror : ∀ cause, AllOrNothing m (k (.error cause)) R) :
    AllOrNothing m (FsProgram.host (.openUnnamed dir) >>= k) R := by
  intro answer
  cases answer with
  | ok => exact hok
  | error cause => exact herror cause

theorem Looks.mapM {f : α → FsProgram β} {g : α → β} (xs : List α)
    (h : ∀ x ∈ xs, Looks m (f x) (· = g x)) : Looks m (xs.mapM f) (· = xs.map g) := by
  induction xs with
  | nil => exact .pure rfl
  | cons x xs ih =>
    rw [List.mapM_cons]
    refine Looks.bind (h x List.mem_cons_self) ?_
    rintro _ rfl
    refine Looks.bind (ih fun y hy => h y (List.mem_cons_of_mem x hy)) ?_
    rintro _ rfl
    exact Looks.pure rfl

/-! ## Runs -/

section Runs

variable {b : Backend (World σ)} {holds : World σ → Memory.Store → Prop} {w : World σ}

/-- A failure leaves what is held, and a result comes with what the operation does. -/
theorem AllOrNothing.runUnder (hp : AllOrNothing m p Q) (hb : Atomic b holds) (h : holds w m)
    (ctx : Context) (d : Disturbance) (hd : (ctx.runUnder d b p.run w).2.host.ids.Distinct) :
    (∀ cause, (ctx.runUnder d b p.run w).1 = .error cause →
      holds (ctx.runUnder d b p.run w).2 m) ∧
    ∀ a, (ctx.runUnder d b p.run w).1 = .ok a →
      ∃ left, holds (ctx.runUnder d b p.run w).2 left ∧ Q a left := by
  obtain ⟨left, hheld, hfails, hdoes⟩ := Program.Ends.runUnder hb hp h ctx d hd
  constructor
  · intro cause hcause
    obtain rfl := hfails cause hcause
    exact hheld
  · intro a ha
    exact ⟨left, hheld, hdoes a ha⟩

theorem AllOrNothing.run (hp : AllOrNothing m p Q) (hb : Atomic b holds) (h : holds w m)
    (ctx : Context) (hd : (ctx.run b p.run w).2.host.ids.Distinct) :
    (∀ cause, (ctx.run b p.run w).1 = .error cause → holds (ctx.run b p.run w).2 m) ∧
    ∀ a, (ctx.run b p.run w).1 = .ok a →
      ∃ left, holds (ctx.run b p.run w).2 left ∧ Q a left := by
  rw [← ctx.runUnder_none] at hd ⊢
  exact hp.runUnder hb h ctx _ hd

end Runs

/-! ## The looks -/

theorem looks_getBucket (m : Memory.Store) (path : String) (id : BucketId) :
    Looks m (FsProgram.call path (.getBucket id)) fun info =>
      ∃ b, m.bucket? id = some b ∧ info = b.info := by
  refine AllOrNothing.call ?_
  intro host info hinfo
  refine ⟨rfl, ?_⟩
  simp only [Memory.serve, Memory.looked, Memory.answered, Option.some.injEq] at hinfo
  cases hfind : m.bucket? id with
  | none =>
    rw [hfind] at hinfo
    cases hinfo
  | some b =>
    rw [hfind] at hinfo
    exact ⟨b, rfl, (Except.ok.inj hinfo).symm⟩

/-- A head that is set to fail is not found out. -/
theorem looks_headObject (m : Memory.Store) (path : String) (bucket : BucketId) (id : ObjectId) :
    Looks m (FsProgram.call path (.headObject bucket id)) fun info =>
      ∃ o, m.object? bucket id = some o ∧ info = o.info := by
  refine AllOrNothing.call ?_
  intro host info hinfo
  refine ⟨rfl, ?_⟩
  simp only [Memory.serve, Memory.looked, Memory.answered, Option.some.injEq,
    Memory.Store.head] at hinfo
  split at hinfo
  · cases hinfo
  · cases hfind : m.object? bucket id with
    | none =>
      rw [hfind] at hinfo
      cases hinfo
    | some o =>
      rw [hfind] at hinfo
      exact ⟨o, rfl, (Except.ok.inj hinfo).symm⟩

theorem looks_searchObjects (m : Memory.Store) (path : String) (bucket : BucketId)
    (filters : List SearchFilter) :
    Looks m (FsProgram.call path (.searchObjects bucket filters)) fun ids =>
      ∃ b, m.bucket? bucket = some b ∧
        ids = (b.objects.filter fun o => filters.all o.satisfies).map (·.info.id) := by
  refine AllOrNothing.call ?_
  intro host ids hids
  refine ⟨rfl, ?_⟩
  simp only [Memory.serve, Memory.looked, Memory.answered, Option.some.injEq,
    Memory.Store.search] at hids
  cases hfind : m.bucket? bucket with
  | none =>
    rw [hfind] at hids
    cases hids
  | some b =>
    rw [hfind] at hids
    exact ⟨b, rfl, (Except.ok.inj hids).symm⟩

theorem looks_listBuckets (m : Memory.Store) (path : String) (owner : OwnerId) :
    Looks m (FsProgram.call path (.listBuckets owner))
      (· = (m.buckets.filter fun b => b.info.owner == owner).map (·.info.id)) := by
  refine AllOrNothing.call ?_
  intro host ids hids
  exact ⟨rfl, (Except.ok.inj (Option.some.inj hids)).symm⟩

end FsProgram
end ObjectGateway
