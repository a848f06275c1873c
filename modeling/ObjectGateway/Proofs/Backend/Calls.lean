import ObjectGateway.Proofs.Backend.Program
/-!
# The calls that a run makes

A backend that keeps a tally of its calls answers as it would without one, and so does one
whose commands are put on record. An operation is prompt if it does nothing at all before its
first call, and this call decides at once what becomes of a request that has been cancelled.
-/
namespace ObjectGateway

variable {σ α β : Type}

-- ---------------------------------------------------------------------------
-- The tally
-- ---------------------------------------------------------------------------

def World.tallied (n : Nat) (w : World σ) : World (Nat × σ) :=
  ⟨w.host, (n, w.store)⟩

/-- The backend with a tally of the calls that it has received. -/
def Backend.tallying (b : Backend (World σ)) : Backend (World (Nat × σ)) where
  call c w :=
    let received := b.call c ⟨w.host, w.store.2⟩
    { firstWait := received.firstWait.map (World.tallied (w.store.1 + 1))
      answer := received.answer
      after := received.after.tallied (w.store.1 + 1) }
  maxChunk w := b.maxChunk ⟨w.host, w.store.2⟩

namespace Context

/-- The number of calls that the backend receives in a run. -/
def callsMade (ctx : Context) (b : Backend (World σ)) (p : Program α) (w : World σ) : Nat :=
  (ctx.run b.tallying p (w.tallied 0)).2.store.1

/-- A request that has been cancelled does not make the call. -/
theorem settle_already {ctx : Context} (h : ctx.interruption = .already) (s : σ)
    (call : Call σ α) : ctx.settle s call = (.error .cancelled, s) := by
  simp only [settle, h]

/-- A call goes as it would without the tally, which counts it if it is made. -/
theorem settle_tallying (ctx : Context) (b : Backend (World σ)) (c : Command) (n : Nat)
    (w : World σ) :
    ctx.settle (w.tallied n) (b.tallying.call c (w.tallied n)) =
      ((ctx.settle w (b.call c w)).1,
        (ctx.settle w (b.call c w)).2.tallied (n + if ctx.interruption = .already then 0 else 1)) := by
  cases h : ctx.interruption with
  | already => simp [settle, h]
  | whileWaiting =>
    simp only [settle, h, await, Backend.tallying, World.tallied]
    cases (b.call c w).firstWait with
    | some left => rfl
    | none => cases (b.call c w).answer <;> rfl
  | never =>
    simp only [settle, h, await, Backend.tallying, World.tallied]
    cases ctx.limit.isZero with
    | true =>
      cases (b.call c w).firstWait with
      | some left => rfl
      | none => cases (b.call c w).answer <;> rfl
    | false => cases (b.call c w).answer <;> rfl

/-- What the first call of a run adds to the tally. -/
theorem run_tallying_call (ctx : Context) (b : Backend (World σ)) (c : Command)
    (next : Except BackendError c.Answer → Program α) (n : Nat) (w : World σ) :
    ctx.run b.tallying (.call c next) (w.tallied n) =
      ctx.run b.tallying (next (ctx.settle w (b.call c w)).1)
        ((ctx.settle w (b.call c w)).2.tallied
          (n + if ctx.interruption = .already then 0 else 1)) := by
  have hstep : ctx.run b.tallying (.call c next) (w.tallied n) =
      ctx.run b.tallying (next (ctx.settle (w.tallied n) (b.tallying.call c (w.tallied n))).1)
        (ctx.settle (w.tallied n) (b.tallying.call c (w.tallied n))).2 := rfl
  rw [hstep, settle_tallying]

/-- The tally changes nothing, and it grows by the calls that are made. -/
theorem run_tallying (ctx : Context) (b : Backend (World σ)) (p : Program α) (n : Nat)
    (w : World σ) :
    ctx.run b.tallying p (w.tallied n) =
      ((ctx.run b p w).1, (ctx.run b p w).2.tallied (n + ctx.callsMade b p w)) := by
  -- The tally is arbitrary, for the first call leaves another one to the rest.
  induction p generalizing n w with
  | done a => rfl
  | call c next ih =>
    have hmade : ctx.callsMade b (.call c next) w =
        (if ctx.interruption = .already then 0 else 1) +
          ctx.callsMade b (next (ctx.settle w (b.call c w)).1)
            (ctx.settle w (b.call c w)).2 := by
      rw [callsMade, run_tallying_call, ih, Nat.zero_add]
      rfl
    rw [run_tallying_call, ih, hmade, ← Nat.add_assoc]
    rfl
  | host a next ih => exact ih (a.perform w.host).1 n { w with host := (a.perform w.host).2 }

theorem callsMade_call {ctx : Context} (h : ctx.interruption ≠ .already) (b : Backend (World σ))
    (c : Command) (next : Except BackendError c.Answer → Program α) (w : World σ) :
    ctx.callsMade b (.call c next) w =
      1 + ctx.callsMade b (next (ctx.settle w (b.call c w)).1) (ctx.settle w (b.call c w)).2 := by
  rw [callsMade, run_tallying_call, if_neg h, run_tallying]
  rfl

theorem callsMade_bind (ctx : Context) (b : Backend (World σ)) (p : Program α)
    (k : α → Program β) (w : World σ) :
    ctx.callsMade b (p.bind k) w =
      ctx.callsMade b p w + ctx.callsMade b (k (ctx.run b p w).1) (ctx.run b p w).2 := by
  have hbind : ctx.run b.tallying (p.bind k) (w.tallied 0) =
      ctx.run b.tallying (k (ctx.run b.tallying p (w.tallied 0)).1)
        (ctx.run b.tallying p (w.tallied 0)).2 := Program.run_bind _ p k _
  rw [callsMade, hbind, run_tallying ctx b p, run_tallying, Nat.zero_add]
  rfl

theorem callsMade_fsCall {ctx : Context} (h : ctx.interruption ≠ .already)
    (b : Backend (World σ)) (path : String) (c : Command) (w : World σ) :
    ctx.callsMade b (FsProgram.call path c).run w = 1 := by
  refine (callsMade_call h b c _ w).trans ?_
  cases (ctx.settle w (b.call c w)).1 <;> rfl

end Context

-- ---------------------------------------------------------------------------
-- The record
-- ---------------------------------------------------------------------------

namespace Program

/-- The interpreter with a record of the commands that it was given. -/
def Interpreter.recording (i : Interpreter σ) : Interpreter (σ × List Command) where
  call c s := ((i.call c s.1).1, ((i.call c s.1).2, s.2 ++ [c]))
  host a s := ((i.host a s.1).1, ((i.host a s.1).2, s.2))

/-- The record changes nothing. -/
theorem run_recording (i : Interpreter σ) (p : Program α) (s : σ × List Command) :
    p.run i s.1 = ((p.run i.recording s).1, (p.run i.recording s).2.1) := by
  induction p generalizing s with
  | done a => rfl
  | call c next ih => exact ih _ (i.recording.call c s).2
  | host a next ih => exact ih _ (i.recording.host a s).2

end Program

/-- The commands that a run gives to the backend, first to last. -/
def Context.issued (ctx : Context) (b : Backend (World σ)) (p : Program α) (w : World σ) :
    List Command :=
  (p.run (ctx.interpreter b).recording (w, [])).2.2

-- ---------------------------------------------------------------------------
-- Prompt operations
-- ---------------------------------------------------------------------------

namespace FsProgram

variable {p : FsProgram α} {k : α → FsProgram β}

/-- The operation begins with a call, and is over as cancelled if this is refused as such. -/
def CallsFirst (p : FsProgram α) : Prop :=
  ∃ c next path, p.run = .call c next ∧ next (.error .cancelled) = .done (.error (.cancelled path))

/-- The operation is over before it has done anything, and not as cancelled. -/
def Settled (p : FsProgram α) : Prop :=
  ∃ result, p.run = .done result ∧ ∀ path, result ≠ .error (.cancelled path)

/-- The operation does nothing before a call. -/
def Prompt (p : FsProgram α) : Prop :=
  p.CallsFirst ∨ p.Settled

theorem CallsFirst.call (path : String) (c : Command) : (FsProgram.call path c).CallsFirst :=
  ⟨c, _, path, rfl, rfl⟩

theorem CallsFirst.bind (hp : p.CallsFirst) (k : α → FsProgram β) : (p >>= k).CallsFirst := by
  obtain ⟨c, next, path, hp, hnext⟩ := hp
  refine ⟨c, fun answer => (next answer).bind (ExceptT.bindCont k), path, ?_, ?_⟩
  · exact congrArg (Program.bind · (ExceptT.bindCont k)) hp
  · exact congrArg (Program.bind · (ExceptT.bindCont k)) hnext

theorem CallsFirst.map (hp : p.CallsFirst) (f : α → β) : (f <$> p).CallsFirst := by
  rw [map_eq_pure_bind]
  exact hp.bind _

theorem Prompt.pure (a : α) : (pure a : FsProgram α).Prompt :=
  .inr ⟨.ok a, rfl, nofun⟩

theorem Prompt.throw {cause : FsError} (h : ∀ path, cause ≠ .cancelled path) :
    (throw cause : FsProgram α).Prompt :=
  .inr ⟨.error cause, rfl, fun path hsame => h path (Except.error.inj hsame)⟩

theorem Prompt.map (hp : p.Prompt) (f : α → β) : (f <$> p).Prompt := by
  obtain hcalls | ⟨result, hresult, hnot⟩ := hp
  · exact .inl (hcalls.map f)
  · refine .inr ⟨result.map f, ?_, fun path => ?_⟩
    · rw [map_eq_pure_bind]
      refine (congrArg (Program.bind · _) hresult).trans ?_
      cases result <;> rfl
    · cases result with
      | ok a => nofun
      | error cause => exact fun hsame => hnot path (congrArg _ (Except.error.inj hsame))

/-- What becomes of an operation for the cancelled request `ctx`, and what for `live`. -/
structure Forgone (ctx live : Context) (b : Backend (World σ)) (p : FsProgram α)
    (w : World σ) : Prop where
  /-- The cancelled request reaches the backend with no call. -/
  calls : ctx.callsMade b p.run w = 0
  /-- It leaves the store, the files and the supply of identifiers as they are. -/
  world : (ctx.run b p.run w).2 = w
  /-- It ends as cancelled exactly when the live one would have made a call. -/
  cancelled : (∃ path, (ctx.run b p.run w).1 = .error (.cancelled path)) ↔
    1 ≤ live.callsMade b p.run w
  /-- Without a call of the live one, both get the same. -/
  same : live.callsMade b p.run w = 0 → (ctx.run b p.run w).1 = (live.run b p.run w).1

theorem Prompt.forgone (hp : p.Prompt) {ctx live : Context} (hctx : ctx.interruption = .already)
    (hlive : live.interruption ≠ .already) (b : Backend (World σ)) (w : World σ) :
    p.Forgone ctx live b w := by
  obtain ⟨c, next, path, hp, hnext⟩ | ⟨result, hp, hnot⟩ := hp
  · have hrun : ctx.run b p.run w = (.error (.cancelled path), w) := by
      have hstep : ctx.run b (.call c next) w = ctx.run b (next (ctx.settle w (b.call c w)).1)
          (ctx.settle w (b.call c w)).2 := rfl
      rw [hp, hstep, Context.settle_already hctx, hnext]
      rfl
    have hcalls : ctx.callsMade b p.run w = 0 := by
      rw [hp, Context.callsMade, Context.run_tallying_call, Context.settle_already hctx, hnext,
        if_pos hctx]
      rfl
    have hmade : live.callsMade b p.run w =
        1 + live.callsMade b (next (live.settle w (b.call c w)).1)
          (live.settle w (b.call c w)).2 := by
      rw [hp, Context.callsMade_call hlive]
    refine ⟨hcalls, by rw [hrun], ⟨fun _ => by omega, fun _ => ⟨path, by rw [hrun]⟩⟩, ?_⟩
    intro hnone
    omega
  · have hrun : ∀ any : Context, any.run b p.run w = (result, w) ∧ any.callsMade b p.run w = 0 := by
      intro any
      rw [hp]
      exact ⟨rfl, rfl⟩
    obtain ⟨hresult, hcalls⟩ := hrun ctx
    obtain ⟨hresult', hcalls'⟩ := hrun live
    refine ⟨hcalls, by rw [hresult], ⟨?_, fun hmade => by omega⟩, fun _ => by rw [hresult, hresult']⟩
    rintro ⟨path, h⟩
    rw [hresult] at h
    exact absurd h (hnot path)

end FsProgram
end ObjectGateway
