import ObjectGateway.Proofs.Backend.Faithful
/-!
# Programs, step by step

A program runs its first part and then, from the state this leaves, the rest. What every
call that it may make keeps is kept by all of it, however the calls are answered.
-/
namespace ObjectGateway

variable {σ α β : Type}

namespace Program

theorem run_bind (i : Interpreter σ) (p : Program α) (k : α → Program β) (s : σ) :
    (p.bind k).run i s = (k (p.run i s).1).run i (p.run i s).2 := by
  induction p generalizing s with
  | done a => rfl
  | call c next ih => exact ih _ _
  | host a next ih => exact ih _ _

theorem bind_done (p : Program α) : p.bind done = p := by
  induction p with
  | done a => rfl
  | call c next ih => exact congrArg (call c) (funext ih)
  | host a next ih => exact congrArg (host a) (funext ih)

theorem bind_assoc {γ : Type} (p : Program α) (k : α → Program β) (l : β → Program γ) :
    (p.bind k).bind l = p.bind fun a => (k a).bind l := by
  induction p with
  | done a => rfl
  | call c next ih => exact congrArg (call c) (funext ih)
  | host a next ih => exact congrArg (host a) (funext ih)

instance : LawfulMonad Program :=
  .mk' Program bind_done (fun _ _ => rfl) bind_assoc

/-! ## What a program may do -/

/-- However it is answered, the program makes calls of the kind `A` only, does no more
on the host than open files without a name, and has a result of the kind `P`. -/
def Confined (A : Command → Prop) (P : α → Prop) : Program α → Prop
  | done a => P a
  | call c next => A c ∧ ∀ answer, (next answer).Confined A P
  | host (.openUnnamed _) next => ∀ answer, (next answer).Confined A P
  | host _ _ => False

variable {A : Command → Prop} {P : α → Prop} {Q : β → Prop} {p : Program α}
  {k : α → Program β}

theorem Confined.bind (hp : p.Confined A P) (hk : ∀ a, P a → (k a).Confined A Q) :
    (p.bind k).Confined A Q := by
  induction p with
  | done a => exact hk a hp
  | call c next ih => exact ⟨hp.1, fun answer => ih answer (hp.2 answer)⟩
  | host a next ih =>
    cases a with
    | openUnnamed dir => exact fun answer => ih answer (hp answer)
    | _ => exact hp.elim

theorem Confined.mono {A' : Command → Prop} {P' : α → Prop} (hp : p.Confined A P)
    (hA : ∀ c, A c → A' c) (hP : ∀ a, P a → P' a) : p.Confined A' P' := by
  induction p with
  | done a => exact hP a hp
  | call c next ih => exact ⟨hA c hp.1, fun answer => ih answer (hp.2 answer)⟩
  | host a next ih =>
    cases a with
    | openUnnamed dir => exact fun answer => ih answer (hp answer)
    | _ => exact hp.elim

/-- What every call keeps, the program keeps, and it ends with a result of its kind. -/
theorem Confined.run {b : Backend (World σ)} {ctx : Context} {J : World σ → Prop} {w : World σ}
    (hp : p.Confined A P) (hcall : ∀ w c, A c → J w → J (ctx.settle w (b.call c w)).2)
    (hw : J w) : P (ctx.run b p w).1 ∧ J (ctx.run b p w).2 := by
  -- The world is arbitrary, for every call may leave another one.
  induction p generalizing w with
  | done a => exact ⟨hp, hw⟩
  | call c next ih => exact ih _ (hp.2 _) (hcall w c hp.1 hw)
  | host a next ih =>
    cases a with
    | openUnnamed dir => exact ih _ (hp _) hw
    | _ => exact hp.elim

end Program

/-! ## Operations that may fail -/

namespace FsProgram

variable {A : Command → Prop} {P : α → Prop} {Q : β → Prop} {p : FsProgram α}
  {k : α → FsProgram β}

/-- The operation is confined, and its result is of the kind `P` unless it fails. -/
def Confined (A : Command → Prop) (P : α → Prop) (p : FsProgram α) : Prop :=
  Program.Confined A (fun r => ∀ a, r = .ok a → P a) p.run

theorem Confined.pure {a : α} (h : P a) : Confined A P (pure a) := by
  rintro _ ⟨⟩
  exact h

theorem Confined.throw (cause : FsError) : Confined A P (throw cause) := by
  rintro _ ⟨⟩

theorem Confined.call {path : String} {c : Command} {P : c.Answer → Prop} (hc : A c)
    (h : ∀ a, P a) :
    Confined A P (FsProgram.call path c) := by
  refine ⟨hc, fun answer => ?_⟩
  cases answer with
  | ok a => exact fun _ _ => h _
  | error cause => rintro _ ⟨⟩

theorem Confined.bind (hp : Confined A P p) (hk : ∀ a, P a → Confined A Q (k a)) :
    Confined A Q (p >>= k) := by
  refine Program.Confined.bind hp ?_
  intro r hr
  cases r with
  | ok a => exact hk a (hr a rfl)
  | error cause => rintro _ ⟨⟩

theorem Confined.map {f : α → β} (hp : Confined A P p) (hf : ∀ a, P a → Q (f a)) :
    Confined A Q (f <$> p) := by
  rw [map_eq_pure_bind]
  exact hp.bind fun a ha => .pure (hf a ha)

theorem Confined.mono {A' : Command → Prop} {P' : α → Prop} (hp : Confined A P p)
    (hA : ∀ c, A c → A' c) (hP : ∀ a, P a → P' a) : Confined A' P' p :=
  Program.Confined.mono hp hA fun _ hr a ha => hP a (hr a ha)

/-- Nothing follows a failure. -/
theorem Confined.throw_bind (cause : FsError) :
    Confined A Q ((MonadExcept.throw cause : FsProgram α) >>= k) :=
  (Confined.throw (P := fun _ => False) cause).bind fun _ h => h.elim

theorem Confined.openUnnamed {dir : Option String} {k : Except IoError Unit → FsProgram β}
    (hok : Confined A Q (k (.ok ()))) (herror : ∀ cause, Confined A Q (k (.error cause))) :
    Confined A Q (FsProgram.host (.openUnnamed dir) >>= k) := by
  intro answer
  cases answer with
  | ok => exact hok
  | error cause => exact herror cause

theorem Confined.mapM {f : α → FsProgram β} (h : ∀ x, Confined A (fun _ => True) (f x))
    (xs : List α) : Confined A (fun _ => True) (xs.mapM f) := by
  induction xs with
  | nil => exact .pure trivial
  | cons x xs ih =>
    rw [List.mapM_cons]
    exact (h x).bind fun _ _ => ih.bind fun _ _ => .pure trivial

/-- The operation gives only commands that look, and its result is of the kind `P`. -/
def Peeks (p : FsProgram α) (P : α → Prop := fun _ => True) : Prop :=
  Confined (fun c => c.isMutating = false) P p

theorem Peeks.call {path : String} {c : Command} (hc : c.isMutating = false) :
    (FsProgram.call path c).Peeks :=
  Confined.call hc fun _ => trivial

end FsProgram

/-! ## Runs -/

namespace FsProgram

open Program (Interpreter)

/-- An operation goes on behind its first part unless that fails. -/
theorem run_bind (i : Interpreter σ) (p : FsProgram α) (k : α → FsProgram β) (s : σ) :
    (p >>= k).run.run i s =
      match p.run.run i s with
      | (.ok a, left) => (k a).run.run i left
      | (.error cause, left) => (.error cause, left) := by
  refine (Program.run_bind i p.run (ExceptT.bindCont k) s).trans ?_
  obtain ⟨r, left⟩ := p.run.run i s
  cases r with
  | ok a => rfl
  | error cause => rfl

theorem run_call (i : Interpreter σ) (path : String) (c : Command) (s : σ) :
    (FsProgram.call path c).run.run i s =
      ((i.call c s).1.mapError (.ofBackend c.name path), (i.call c s).2) := by
  cases hcall : i.call c s with
  | mk r left =>
    simp only [FsProgram.call, ExceptT.run, ExceptT.mk, Program.run, hcall]
    cases r with
    | ok a => rfl
    | error cause => rfl

theorem run_map (i : Interpreter σ) (f : α → β) (p : FsProgram α) (s : σ) :
    (f <$> p).run.run i s = ((p.run.run i s).1.map f, (p.run.run i s).2) := by
  rw [map_eq_pure_bind, run_bind]
  obtain ⟨r, left⟩ := p.run.run i s
  cases r with
  | ok a => rfl
  | error cause => rfl

end FsProgram

variable {b : Backend (World σ)} {holds : World σ → Memory.Store → Prop}

theorem Context.run_fsBind (ctx : Context) (b : Backend (World σ)) (p : FsProgram α)
    (k : α → FsProgram β) (w : World σ) :
    ctx.run b (p >>= k).run w =
      match ctx.run b p.run w with
      | (.ok a, left) => ctx.run b (k a).run left
      | (.error cause, left) => (.error cause, left) := by
  refine (FsProgram.run_bind (ctx.interpreter b) p k w).trans ?_
  unfold Context.run
  obtain ⟨r, left⟩ := p.run.run (ctx.interpreter b) w
  cases r with
  | ok a => rfl
  | error cause => rfl

theorem Context.run_fsCall (ctx : Context) (b : Backend (World σ)) (path : String) (c : Command)
    (w : World σ) :
    ctx.run b (FsProgram.call path c).run w =
      ((ctx.settle w (b.call c w)).1.mapError (.ofBackend c.name path),
        (ctx.settle w (b.call c w)).2) :=
  FsProgram.run_call (ctx.interpreter b) path c w

theorem Context.run_fsMap (ctx : Context) (b : Backend (World σ)) (f : α → β) (p : FsProgram α)
    (w : World σ) :
    ctx.run b (f <$> p).run w = ((ctx.run b p.run w).1.map f, (ctx.run b p.run w).2) :=
  FsProgram.run_map (ctx.interpreter b) f p w

theorem HostAction.perform_extends (h : Host) (a : HostAction) :
    (a.perform h).2.ids.Extends h.ids := by
  have hupdate : ∀ files, (h.update files).2.ids = h.ids := by
    intro files
    cases files <;> rfl
  cases a with
  | openUnnamed dir => exact .refl _
  | draw => exact IdSupply.extends_draw h.ids .object
  | readFile dir name => exact .refl _
  | writeFile dir name data => exact hupdate _ ▸ .refl _
  | removeFile dir name => exact hupdate _ ▸ .refl _

/-- Keys are only ever drawn. -/
theorem Faithful.run_extends (hb : Faithful b holds) (ctx : Context) (p : Program α)
    (w : World σ) : (ctx.run b p w).2.host.ids.Extends w.host.ids := by
  induction p generalizing w with
  | done a => exact .refl _
  | call c next ih => exact (ih _ _).trans (hb.settle_extends ctx w c)
  | host a next ih => exact (ih _ _).trans (a.perform_extends w.host)

end ObjectGateway
