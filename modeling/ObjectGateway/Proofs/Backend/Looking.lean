import ObjectGateway.Proofs.Backend.Calls
/-!
# Programs that only look

What such a program finds out depends on the store that is held, and on nothing else: a
live request is told it, and any other one is told it or fails. What is held stays.
-/
namespace ObjectGateway

variable {σ α β : Type}

/-- A live request that runs the program on a world which holds `m` gets the result `a`. -/
def Program.Sees (b : Backend (World σ)) (holds : World σ → Memory.Store → Prop)
    (m : Memory.Store) (p : Program α) (a : α) : Prop :=
  ∀ ⦃w : World σ⦄ ⦃ctx : Context⦄, holds w m → w.host.ids.Distinct → ctx.Live →
    (ctx.run b p w).1 = a ∧ holds (ctx.run b p w).2 m ∧ (ctx.run b p w).2.host.ids = w.host.ids

namespace FsProgram

/-- On worlds which hold `m` the operation leaves it so, whatever becomes of the request,
and a result that it has is of the kind `P`. -/
def Tells (b : Backend (World σ)) (holds : World σ → Memory.Store → Prop) (m : Memory.Store)
    (p : FsProgram α) (P : α → Prop) : Prop :=
  ∀ ⦃w : World σ⦄ ⦃ctx : Context⦄, holds w m → (ctx.run b p.run w).2.host.ids.Distinct →
    holds (ctx.run b p.run w).2 m ∧ ∀ a, (ctx.run b p.run w).1 = .ok a → P a

/-- The operation finds out `r` on worlds which hold `m`: a live request is told it, and
any other one is told nothing else. -/
structure Reads (b : Backend (World σ)) (holds : World σ → Memory.Store → Prop)
    (m : Memory.Store) (p : FsProgram α) (r : Except FsError α) : Prop where
  live : p.run.Sees b holds m r
  any : Tells b holds m p fun a => r = .ok a

end FsProgram

variable {b : Backend (World σ)} {holds : World σ → Memory.Store → Prop} {m : Memory.Store}

/-- A live request for a command that draws no key is told the answer, and the store is left as
the command leaves it. -/
theorem Faithful.settle_answered {w : World σ} {ctx : Context} {c : Command}
    {answer : Except BackendError c.Answer} {left : Memory.Store} (hb : Faithful b holds)
    (h : holds w m) (hd : w.host.ids.Distinct) (hlive : ctx.Live) (hc : c.Complete)
    (hserve : Memory.serve ⟨w.host, m⟩ c = Memory.answered (answer, ⟨w.host, left⟩)) :
    (ctx.settle w (b.call c w)).1 = answer ∧ holds (ctx.settle w (b.call c w)).2 left ∧
      (ctx.settle w (b.call c w)).2.host.ids = w.host.ids := by
  have hids : (ctx.settle w (b.call c w)).2.host.ids = w.host.ids := by
    rw [Context.settle_live_after hlive, hb.ids h hc, hserve]
    rfl
  have hserved := hb.settle_live h hlive hc (hids.symm ▸ hd)
  have hanswer := hserved.answer
  have hheld := hserved.holds
  rw [hserve] at hanswer hheld
  exact ⟨(Option.some.inj hanswer).symm, hheld, hids⟩

/-- So an operation that gives one such command is told its answer. -/
theorem Faithful.run_answered {w : World σ} {ctx : Context} {c : Command} {answer : c.Answer}
    {left : Memory.Store} (hb : Faithful b holds) (h : holds w m) (hd : w.host.ids.Distinct)
    (hlive : ctx.Live) (hc : c.Complete)
    (hserve : Memory.serve ⟨w.host, m⟩ c = Memory.answered (.ok answer, ⟨w.host, left⟩))
    (path : String) :
    let r := ctx.run b (FsProgram.call path c).run w
    r.1 = .ok answer ∧ holds r.2 left ∧ r.2.host.ids = w.host.ids := by
  obtain ⟨hanswer, hheld⟩ := hb.settle_answered h hd hlive hc hserve
  rw [Context.run_fsCall, hanswer]
  exact ⟨rfl, hheld⟩

namespace Program

variable {p : Program α} {k : α → Program β} {a : α} {c : β}

theorem Sees.done (a : α) : Sees b holds m (.done a) a :=
  fun _ _ h _ _ => ⟨rfl, h, rfl⟩

theorem Sees.bind (hp : Sees b holds m p a) (hk : Sees b holds m (k a) c) :
    Sees b holds m (p.bind k) c := by
  intro w ctx h hd hlive
  obtain ⟨hresult, hheld, hids⟩ := hp h hd hlive
  have hrun : ctx.run b (p.bind k) w = ctx.run b (k a) (ctx.run b p w).2 := by
    rw [← hresult]
    exact Program.run_bind _ p k w
  obtain ⟨hresult', hheld', hids'⟩ := hk hheld (hids ▸ hd) hlive
  rw [hrun]
  exact ⟨hresult', hheld', hids'.trans hids⟩

end Program

namespace FsProgram

variable {p : FsProgram α} {k : α → FsProgram β} {r : Except FsError α} {P : α → Prop}
  {Q : β → Prop}

theorem Tells.pure {a : α} (h : P a) : Tells b holds m (pure a) P := by
  intro w ctx hheld _
  refine ⟨hheld, ?_⟩
  rintro _ ⟨⟩
  exact h

theorem Tells.throw (cause : FsError) : Tells b holds m (throw cause) P :=
  fun _ _ hheld _ => ⟨hheld, fun _ h => nomatch h⟩

theorem Tells.bind (hb : Faithful b holds) (hp : Tells b holds m p P)
    (hk : ∀ a, P a → Tells b holds m (k a) Q) : Tells b holds m (p >>= k) Q := by
  intro w ctx h hd
  have hfirst : (ctx.run b p.run w).2.host.ids.Distinct → _ := hp h
  rw [Context.run_fsBind] at hd ⊢
  generalize ctx.run b p.run w = first at hfirst hd ⊢
  obtain ⟨result, left⟩ := first
  -- The keys at the end differ, so those before the second part do, too.
  cases result with
  | ok a =>
    obtain ⟨hheld, htold⟩ := hfirst (hd.of_extends (hb.run_extends ctx (k a).run left))
    exact hk a (htold a rfl) hheld hd
  | error cause =>
    obtain ⟨hheld, -⟩ := hfirst hd
    exact ⟨hheld, fun _ h => nomatch h⟩

/-- Nothing follows a failure. -/
theorem Tells.throw_bind (hb : Faithful b holds) (cause : FsError) :
    Tells b holds m ((MonadExcept.throw cause : FsProgram α) >>= k) Q :=
  (Tells.throw (P := fun _ => False) cause).bind hb fun _ h => h.elim

/-- Opening a file without a name changes nothing. -/
theorem Tells.openUnnamed {dir : Option String} {k : Except IoError Unit → FsProgram β}
    (hok : Tells b holds m (k (.ok ())) Q)
    (herror : ∀ cause, Tells b holds m (k (.error cause)) Q) :
    Tells b holds m (FsProgram.host (.openUnnamed dir) >>= k) Q := by
  intro w ctx h hd
  have hrun : ctx.run b (FsProgram.host (.openUnnamed dir) >>= k).run w =
      ctx.run b (k ((HostAction.openUnnamed dir).perform w.host).1).run w := rfl
  rw [hrun] at hd ⊢
  cases hopen : ((HostAction.openUnnamed dir).perform w.host).1 with
  | ok =>
    rw [hopen] at hd
    exact hok h hd
  | error cause =>
    rw [hopen] at hd
    exact herror cause h hd

theorem Reads.pure (a : α) : Reads b holds m (pure a) (.ok a) where
  live := .done _
  any := .pure rfl

theorem Reads.throw (cause : FsError) :
    Reads b holds m (throw cause : FsProgram α) (.error cause) where
  live := .done _
  any := .throw cause

/-- A command that is answered without a change is a look. -/
theorem Reads.call (hb : Faithful b holds) (path : String) {c : Command}
    {answer : Except BackendError c.Answer} (hc : c.Complete)
    (hserve : ∀ host, Memory.serve ⟨host, m⟩ c = Memory.looked ⟨host, m⟩ answer) :
    Reads b holds m (FsProgram.call path c) (answer.mapError (.ofBackend c.name path)) where
  live w ctx h hd hlive := by
    rw [Context.run_fsCall]
    obtain ⟨hanswer, hheld⟩ := hb.settle_answered h hd hlive hc (hserve w.host)
    exact ⟨congrArg (Except.mapError _) hanswer, hheld⟩
  any w ctx h hd := by
    rw [Context.run_fsCall] at hd ⊢
    -- Any other request is served as well, or it is refused and told nothing.
    obtain hserved | hrefused := hb.settle_complete h ctx hc hd
    · have hanswer := hserved.answer
      have hheld := hserved.holds
      rw [hserve] at hanswer hheld
      exact ⟨hheld, fun a ha => (congrArg (Except.mapError _) (Option.some.inj hanswer)).trans ha⟩
    · obtain ⟨cause, hcause⟩ := hrefused.failed
      refine ⟨hrefused.holds, fun a ha => ?_⟩
      rw [hcause] at ha
      cases ha

theorem Reads.bind (hb : Faithful b holds) {s : α → Except FsError β}
    (hp : Reads b holds m p r) (hk : ∀ a, r = .ok a → Reads b holds m (k a) (s a)) :
    Reads b holds m (p >>= k) (r >>= s) where
  live := by
    cases r with
    | ok a => exact hp.live.bind (hk a rfl).live
    | error cause => exact hp.live.bind (.done _)
  any := by
    refine hp.any.bind hb ?_
    intro a ha
    obtain rfl := ha
    exact (hk a rfl).any

theorem Reads.bind_ok (hb : Faithful b holds) {a : α} {s : Except FsError β}
    (hp : Reads b holds m p (.ok a)) (hk : Reads b holds m (k a) s) :
    Reads b holds m (p >>= k) s := by
  refine hp.bind hb (s := fun _ => s) ?_
  intro a' h
  obtain rfl := Except.ok.inj h
  exact hk

/-- Nothing is looked for after a failure. -/
theorem Reads.bind_error (hb : Faithful b holds) {cause : FsError}
    (hp : Reads b holds m p (.error cause)) : Reads b holds m (p >>= k) (.error cause) :=
  hp.bind hb (s := fun _ => .error cause) fun _ h => nomatch h

theorem Reads.map (hb : Faithful b holds) (f : α → β) (hp : Reads b holds m p r) :
    Reads b holds m (f <$> p) (r.map f) := by
  rw [map_eq_pure_bind]
  have hbind := hp.bind hb (k := fun a => Pure.pure (f a)) (s := fun a => .ok (f a))
    fun a _ => Reads.pure (f a)
  cases r with
  | ok a => exact hbind
  | error cause => exact hbind

theorem Reads.mapM (hb : Faithful b holds) {f : α → FsProgram β} {g : α → β} (xs : List α)
    (h : ∀ x ∈ xs, Reads b holds m (f x) (.ok (g x))) :
    Reads b holds m (xs.mapM f) (.ok (xs.map g)) := by
  induction xs with
  | nil => exact .pure []
  | cons x xs ih =>
    rw [List.mapM_cons]
    have htail := ih fun y hy => h y (List.mem_cons_of_mem x hy)
    refine (h x List.mem_cons_self).bind hb (s := fun y => .ok (y :: xs.map g)) ?_
    intro y _
    exact htail.bind hb (s := fun ys => .ok (y :: ys)) fun ys _ => .pure (y :: ys)

end FsProgram

/-! ## What a look costs -/

/-- A live request gets the result `a` from a world which holds `m`, for `n` calls. -/
structure Program.Costs (b : Backend (World σ)) (holds : World σ → Memory.Store → Prop)
    (m : Memory.Store) (p : Program α) (n : Nat) (a : α) : Prop where
  sees : p.Sees b holds m a
  calls : ∀ ⦃w : World σ⦄ ⦃ctx : Context⦄, holds w m → w.host.ids.Distinct → ctx.Live →
    ctx.callsMade b p w = n

/-- The operation finds out `r`, for which a live request makes `n` calls. -/
structure FsProgram.Spends (b : Backend (World σ)) (holds : World σ → Memory.Store → Prop)
    (m : Memory.Store) (p : FsProgram α) (n : Nat) (r : Except FsError α) : Prop
    extends Reads b holds m p r where
  costs : p.run.Costs b holds m n r

namespace Program

variable {p : Program α} {k : α → Program β} {n n' : Nat} {a : α} {c : β}

theorem Costs.done (a : α) : (done a).Costs b holds m 0 a where
  sees := .done a
  calls _ _ _ _ _ := rfl

theorem Costs.bind (hp : p.Costs b holds m n a) (hk : (k a).Costs b holds m n' c) :
    (p.bind k).Costs b holds m (n + n') c where
  sees := hp.sees.bind hk.sees
  calls w ctx h hd hlive := by
    obtain ⟨hresult, hheld, hids⟩ := hp.sees h hd hlive
    rw [Context.callsMade_bind, hp.calls h hd hlive, hresult,
      hk.calls hheld (hids.symm ▸ hd) hlive]

/-- What follows makes no call. -/
theorem Costs.bind_free (hp : p.Costs b holds m n a) (hk : (k a).Costs b holds m 0 c) :
    (p.bind k).Costs b holds m n c :=
  hp.bind hk

end Program

namespace FsProgram

variable {p : FsProgram α} {k : α → FsProgram β} {n n' : Nat} {r : Except FsError α}

theorem Spends.pure (a : α) : Spends b holds m (pure a) 0 (.ok a) where
  toReads := .pure a
  costs := .done _

theorem Spends.throw (cause : FsError) :
    Spends b holds m (throw cause : FsProgram α) 0 (.error cause) where
  toReads := .throw cause
  costs := .done _

theorem Spends.bind_ok (hb : Faithful b holds) {a : α} {s : Except FsError β}
    (hp : Spends b holds m p n (.ok a)) (hk : Spends b holds m (k a) n' s) :
    Spends b holds m (p >>= k) (n + n') s where
  toReads := hp.toReads.bind_ok hb hk.toReads
  costs := hp.costs.bind hk.costs

theorem Spends.bind_free (hb : Faithful b holds) {a : α} {s : Except FsError β}
    (hp : Spends b holds m p n (.ok a)) (hk : Spends b holds m (k a) 0 s) :
    Spends b holds m (p >>= k) n s :=
  hp.bind_ok hb hk

theorem Spends.bind_error (hb : Faithful b holds) {cause : FsError}
    (hp : Spends b holds m p n (.error cause)) :
    Spends b holds m (p >>= k) n (.error cause) where
  toReads := hp.toReads.bind_error hb
  costs := by
    have hend : (ExceptT.bindCont k (.error cause)).Costs b holds m 0 (.error cause) := .done _
    exact hp.costs.bind hend

/-- One command is one call. -/
theorem Reads.spends {path : String} {c : Command} {r : Except FsError c.Answer}
    (h : Reads b holds m (FsProgram.call path c) r) :
    Spends b holds m (FsProgram.call path c) 1 r where
  toReads := h
  costs := ⟨h.live, fun w ctx _ _ hlive => by rw [Context.callsMade_fsCall (by simp [hlive.1])]⟩

end FsProgram

/-! ## The looks -/

/-- What was found, or that nothing is there. -/
def FsError.orNotFound (path : String) : Option α → Except FsError α
  | some a => .ok a
  | none => .error (.notFound path)

namespace FsProgram

variable (hb : Faithful b holds) (path : String)

include hb

theorem reads_getBucket (id : BucketId) :
    Reads b holds m (FsProgram.call path (.getBucket id))
      (FsError.orNotFound path ((m.bucket? id).map (·.info))) := by
  have hserve : ∀ host, Memory.serve ⟨host, m⟩ (.getBucket id) = Memory.looked ⟨host, m⟩
      (((m.bucket? id).map (·.info)).elim (.error .notFound) .ok) := by
    intro host
    simp only [Memory.serve]
    cases m.bucket? id <;> rfl
  have hcall := Reads.call (c := .getBucket id) hb path trivial hserve
  cases hfind : m.bucket? id with
  | none => rwa [hfind] at hcall
  | some b => rwa [hfind] at hcall

theorem reads_headObject (hhealthy : m.Healthy) (bucket : BucketId) (id : ObjectId) :
    Reads b holds m (FsProgram.call path (.headObject bucket id))
      (FsError.orNotFound path ((m.object? bucket id).map (·.info))) := by
  have hserve : ∀ host, Memory.serve ⟨host, m⟩ (.headObject bucket id) =
      Memory.looked ⟨host, m⟩ (m.head bucket id) := fun _ => rfl
  have hcall := Reads.call (c := .headObject bucket id) hb path trivial hserve
  have hnever : m.failingHeads.contains id = false := by rw [hhealthy.2]; rfl
  simp only [Memory.Store.head, hnever, Bool.false_eq_true, if_false] at hcall
  cases hfind : m.object? bucket id with
  | none => rwa [hfind] at hcall
  | some o => rwa [hfind] at hcall

theorem reads_searchObjects (bucket : BucketId) (filters : List SearchFilter) :
    Reads b holds m (FsProgram.call path (.searchObjects bucket filters))
      (FsError.orNotFound path ((m.bucket? bucket).map fun b =>
        (b.objects.filter fun o => filters.all o.satisfies).map (·.info.id))) := by
  have hserve : ∀ host, Memory.serve ⟨host, m⟩ (.searchObjects bucket filters) =
      Memory.looked ⟨host, m⟩ (m.search bucket filters) := fun _ => rfl
  have hcall := Reads.call (c := .searchObjects bucket filters) hb path trivial hserve
  simp only [Memory.Store.search] at hcall
  cases hfind : m.bucket? bucket with
  | none => rwa [hfind] at hcall
  | some b => rwa [hfind] at hcall

theorem reads_listBuckets (owner : OwnerId) :
    Reads b holds m (FsProgram.call path (.listBuckets owner))
      (.ok ((m.buckets.filter fun b => b.info.owner == owner).map (·.info.id))) := by
  have hserve : ∀ host, Memory.serve ⟨host, m⟩ (.listBuckets owner) = Memory.looked ⟨host, m⟩
      (.ok ((m.buckets.filter fun b => b.info.owner == owner).map (·.info.id))) := fun _ => rfl
  exact Reads.call (c := .listBuckets owner) hb path trivial hserve

/-- A range that lies within the payload is read. -/
theorem reads_getRange {bucket : BucketId} {id : ObjectId} {o : Memory.StoredObject}
    (ho : m.object? bucket id = some o) {offset length : Nat}
    (hrange : offset + length ≤ o.payload.length) :
    Reads b holds m (FsProgram.call path (.getRange bucket id offset length))
      (.ok (o.payload.slice offset length)) := by
  have hserve : ∀ host, Memory.serve ⟨host, m⟩ (.getRange bucket id offset length) =
      Memory.looked ⟨host, m⟩ (m.range bucket id offset length) := fun _ => rfl
  have hcall := Reads.call (c := .getRange bucket id offset length) hb path trivial hserve
  simp only [Memory.Store.range, ho, if_pos hrange] at hcall
  exact hcall

theorem reads_getRange_missing {bucket : BucketId} {id : ObjectId}
    (ho : m.object? bucket id = none) (offset length : Nat) :
    Reads b holds m (FsProgram.call path (.getRange bucket id offset length))
      (.error (.notFound path)) := by
  have hserve : ∀ host, Memory.serve ⟨host, m⟩ (.getRange bucket id offset length) =
      Memory.looked ⟨host, m⟩ (m.range bucket id offset length) := fun _ => rfl
  have hcall := Reads.call (c := .getRange bucket id offset length) hb path trivial hserve
  simp only [Memory.Store.range, ho] at hcall
  exact hcall

end FsProgram
end ObjectGateway
