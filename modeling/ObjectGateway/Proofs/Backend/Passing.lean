import ObjectGateway.Proofs.Backend.Kinds
import ObjectGateway.Proofs.Backend.Program
import ObjectGateway.Proofs.Host.ByPath
/-!
# What a run passes through

A run goes through one world after the other, and may be cut off in any of them. A program
that only looks at the store, and that touches no file which could be a payload, finds and
leaves the same contents in all of them.
-/
namespace ObjectGateway

-- ---------------------------------------------------------------------------
-- The states of a run
-- ---------------------------------------------------------------------------

namespace Program

variable {σ α β : Type}

/-- The run of a program from the state `s` passes through the state `s'`. -/
inductive Passes (i : Interpreter σ) : Program α → σ → σ → Prop
  | here (p : Program α) (s : σ) : Passes i p s s
  | call {c : Command} {next : Except BackendError c.Answer → Program α} {s s' : σ}
      (h : Passes i (next (i.call c s).1) (i.call c s).2 s') : Passes i (.call c next) s s'
  | host {a : HostAction} {next : a.Answer → Program α} {s s' : σ}
      (h : Passes i (next (i.host a s).1) (i.host a s).2 s') : Passes i (.host a next) s s'

/-- Where a run ends it has passed through. -/
theorem passes_run (i : Interpreter σ) (p : Program α) (s : σ) : p.Passes i s (p.run i s).2 := by
  induction p generalizing s with
  | done a => exact .here _ s
  | call c next ih => exact .call (ih _ _)
  | host a next ih => exact .host (ih _ _)

/-- However it is answered, the program makes calls of the kind `A` only, does nothing else
on the host than what is of the kind `B`, and has a result of the kind `P`. -/
def Within (A : Command → Prop) (B : HostAction → Prop) (P : α → Prop) : Program α → Prop
  | done a => P a
  | call c next => A c ∧ ∀ answer, (next answer).Within A B P
  | host a next => B a ∧ ∀ answer, (next answer).Within A B P

variable {A : Command → Prop} {B : HostAction → Prop} {P : α → Prop} {Q : β → Prop}
  {p : Program α} {k : α → Program β}

theorem Within.bind (hp : p.Within A B P) (hk : ∀ a, P a → (k a).Within A B Q) :
    (p.bind k).Within A B Q := by
  induction p with
  | done a => exact hk a hp
  | call c next ih => exact ⟨hp.1, fun answer => ih answer (hp.2 answer)⟩
  | host a next ih => exact ⟨hp.1, fun answer => ih answer (hp.2 answer)⟩

theorem Confined.within (hp : p.Confined A P) (hB : ∀ dir, B (.openUnnamed dir)) :
    p.Within A B P := by
  induction p with
  | done a => exact hp
  | call c next ih => exact ⟨hp.1, fun answer => ih answer (hp.2 answer)⟩
  | host a next ih =>
    cases a with
    | openUnnamed dir => exact ⟨hB dir, fun answer => ih answer (hp answer)⟩
    | _ => exact hp.elim

/-- What every call and every action keeps holds in every state of the run. -/
theorem Within.passes {i : Interpreter σ} {J : σ → Prop} {s s' : σ} (hp : p.Within A B P)
    (hcall : ∀ c s, A c → J s → J (i.call c s).2) (hhost : ∀ a s, B a → J s → J (i.host a s).2)
    (h : p.Passes i s s') (hs : J s) : J s' := by
  induction h with
  | here => exact hs
  | call _ ih => exact ih (hp.2 _) (hcall _ _ hp.1 hs)
  | host _ ih => exact ih (hp.2 _) (hhost _ _ hp.1 hs)

end Program

-- ---------------------------------------------------------------------------
-- The same contents
-- ---------------------------------------------------------------------------

/-- The action leaves alone every file that could be a payload: such a file is named by an
identifier. -/
def HostAction.SparesPayloads : HostAction → Prop
  | .writeFile _ name _ | .removeFile _ name => IsName name ∧ ∀ id : ObjectId, name ≠ id.text
  | _ => True

/-- A command that only looks leaves a durable store as it is, whether it waits or not. -/
theorem Durable.call_looked (w : World Store) {c : Command} (hc : c.isMutating = false) :
    (call c w).after = w ∧ ∀ left, (call c w).firstWait = some left → left = w := by
  cases c with
  | putObject | deleteObject | putBucket | deleteBucket => cases hc
  | _ =>
    refine ⟨rfl, fun left hwait => ?_⟩
    obtain ⟨-, rfl⟩ : w.store.db.reachable = true ∧ w = left := by
      simpa [call, answered] using hwait
    rfl

/-- One in memory has been counted. -/
theorem Memory.call_looked (w : World Store) {c : Command} (hc : c.isMutating = false) :
    (backend.call c w).after = counted w := by
  simp only [backend, call]
  split
  · rfl
  · cases c with
    | putObject | deleteObject | putBucket | deleteBucket => cases hc
    | _ => rfl

/-- No payload is written or removed. -/
theorem HostAction.perform_spares {a : HostAction} (ha : a.SparesPayloads) (h : Host)
    {base : Location} (bucket : BucketId) (id : ObjectId) :
    (a.perform h).2.files.find? (Durable.payloadFile base bucket id) =
      h.files.find? (Durable.payloadFile base bucket id) := by
  -- The place of a payload ends in the identifier of its object.
  have hlast : (Durable.payloadFile base bucket id).getLast? = some id.text := by
    rw [Durable.payloadFile, List.getLast?_concat]
  have hother : ∀ {name : String}, (∀ id : ObjectId, name ≠ id.text) →
      (Durable.payloadFile base bucket id).getLast? ≠ some name := by
    intro name hname hsame
    rw [hlast, Option.some.injEq] at hsame
    exact hname id hsame.symm
  cases a with
  | writeFile dir name data =>
    obtain ⟨hname, hspares⟩ := ha
    simp only [perform]
    cases hwrite : h.files.writeFileAt h.workDir ((h.directory dir).join name) data with
    | error cause => rfl
    | ok files =>
      exact FileTree.writeFileAt_view hwrite hname (HostPath.names_join _ hname) (hother hspares)
  | removeFile dir name =>
    obtain ⟨hname, hspares⟩ := ha
    simp only [perform]
    cases hremove : h.files.removeFileAt h.workDir ((h.directory dir).join name) with
    | error cause => rfl
    | ok files =>
      exact FileTree.removeFileAt_view hremove hname (HostPath.names_join _ hname) (hother hspares)
  | _ => rfl

namespace Config.BackendKind

/-- The buckets and the objects in them are the same, with all there is to them: on disk the
rows and the payloads. -/
def SameContents : (k : BackendKind) → World k.Store → World k.Store → Prop
  | sqlite => fun w left => left.store = w.store ∧ ∀ bucket id,
      left.host.files.find? (Durable.payloadFile w.store.base bucket id) =
        w.host.files.find? (Durable.payloadFile w.store.base bucket id)
  | memory => fun w left => left.store.buckets = w.store.buckets

theorem SameContents.refl (k : BackendKind) (w : World k.Store) : k.SameContents w w := by
  cases k with
  | sqlite => exact ⟨rfl, fun _ _ => rfl⟩
  | memory => exact Eq.refl w.store.buckets

theorem SameContents.trans {k : BackendKind} {w left later : World k.Store}
    (h : k.SameContents w left) (h' : k.SameContents left later) : k.SameContents w later := by
  cases k with
  | sqlite =>
    obtain ⟨hstore, hfiles⟩ := h
    obtain ⟨hstore', hfiles'⟩ := h'
    refine ⟨hstore'.trans hstore, fun bucket id => ?_⟩
    rw [hstore] at hfiles'
    exact (hfiles' bucket id).trans (hfiles bucket id)
  | memory => exact Eq.trans h' h

/-- The world is the same, but that a store in memory may have counted a call. -/
def OnlyCounted : (k : BackendKind) → World k.Store → World k.Store → Prop
  | sqlite => fun w left => left = w
  | memory => fun w left => left = w ∨ left = Memory.counted w

/-- A command that only looks leaves everything as it is. -/
theorem onlyCounted_settle (k : BackendKind) (ctx : Context) (w : World k.Store) {c : Command}
    (hc : c.isMutating = false) : k.OnlyCounted w (ctx.settle w (k.backend.call c w)).2 := by
  obtain ⟨hunmade, hafter, hwait⟩ : k.OnlyCounted w w ∧
      k.OnlyCounted w (k.backend.call c w).after ∧
      ∀ left, (k.backend.call c w).firstWait = some left → k.OnlyCounted w left := by
    cases k with
    | sqlite =>
      obtain ⟨hafter, hwait⟩ := Durable.call_looked w hc
      exact ⟨rfl, hafter, hwait⟩
    | memory =>
      exact ⟨.inl rfl, .inr (Memory.call_looked w hc),
        fun left h => .inr (Memory.firstWait_counted h)⟩
  have houtcome := ctx.settle_outcome w (k.backend.call c w)
  generalize ctx.settle w (k.backend.call c w) = r at houtcome
  cases houtcome with
  | answered => exact hafter
  | unmade => exact hunmade
  | gaveUp h => exact hwait _ h
  | unanswered => exact hafter

theorem OnlyCounted.host {k : BackendKind} {w left : World k.Store} (h : k.OnlyCounted w left) :
    left.host = w.host := by
  cases k with
  | sqlite => exact congrArg World.host h
  | memory =>
    obtain rfl | rfl := h
    · rfl
    · rfl

/-- A command that only looks finds the contents and leaves them. -/
theorem sameContents_settle (k : BackendKind) (ctx : Context) (w : World k.Store) {c : Command}
    (hc : c.isMutating = false) : k.SameContents w (ctx.settle w (k.backend.call c w)).2 := by
  have hcounted := k.onlyCounted_settle ctx w hc
  generalize (ctx.settle w (k.backend.call c w)).2 = left at hcounted
  cases k with
  | sqlite =>
    obtain rfl : left = w := hcounted
    exact .refl sqlite left
  | memory =>
    obtain rfl | rfl := hcounted
    · exact .refl memory left
    · exact Eq.refl w.store.buckets

/-- An action that spares payloads leaves the contents as they are. -/
theorem sameContents_host (k : BackendKind) (ctx : Context) (w : World k.Store) {a : HostAction}
    (ha : a.SparesPayloads) : k.SameContents w ((ctx.interpreter k.backend).host a w).2 := by
  cases k with
  | memory => exact Eq.refl w.store.buckets
  | sqlite => exact ⟨rfl, fun bucket id => HostAction.perform_spares ha w.host bucket id⟩

end Config.BackendKind

-- ---------------------------------------------------------------------------
-- Harmless programs
-- ---------------------------------------------------------------------------

variable {α β : Type} {P : α → Prop} {Q : β → Prop}

/-- The program only looks at the store and spares payloads, however it is answered, and has
a result of the kind `P`. -/
def Program.Harmless (p : Program α) (P : α → Prop := fun _ => True) : Prop :=
  p.Within (fun c => c.isMutating = false) HostAction.SparesPayloads P

/-- Wherever the run of such a program is cut off, the contents are what they were. -/
theorem Program.Harmless.sameContents {p : Program α} (hp : p.Harmless P)
    {k : Config.BackendKind} {ctx : Context} {w left : World k.Store}
    (h : p.Passes (ctx.interpreter k.backend) w left) : k.SameContents w left :=
  Within.passes hp (fun _ later hc hsame => hsame.trans (k.sameContents_settle ctx later hc))
    (fun _ later ha hsame => hsame.trans (k.sameContents_host ctx later ha)) h (.refl k w)

/-- An operation that only looks leaves the host as it is, whatever becomes of the request. -/
theorem FsProgram.Peeks.host {p : FsProgram α} (hp : p.Peeks P) (k : Config.BackendKind)
    (ctx : Context) (w : World k.Store) : (ctx.run k.backend p.run w).2.host = w.host := by
  have hkept : ∀ (left : World k.Store) (c : Command), c.isMutating = false →
      left.host = w.host → (ctx.settle left (k.backend.call c left)).2.host = w.host :=
    fun left c hc hleft => (k.onlyCounted_settle ctx left hc).host.trans hleft
  exact (Program.Confined.run hp hkept rfl).2

theorem FsProgram.Peeks.harmless {p : FsProgram α} (h : p.Peeks P) :
    Program.Harmless p.run fun r => ∀ a, r = .ok a → P a :=
  Program.Confined.within h fun _ => trivial

end ObjectGateway
