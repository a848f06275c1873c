import ObjectGateway.Proofs.Backend.Neighbours
import ObjectGateway.Proofs.Gateway.InStep
import ObjectGateway.Proofs.Gateway.Uniqueness
/-!
# Clients side by side

Clients make requests, write to the writers they get and close them, and read from the readers
they get. When two of them take the same steps, but for identifiers, on worlds that hold the
same in a part of their stores, they are told the same but for identifiers, and leave worlds
like that.
-/
namespace ObjectGateway

open List (Forall₂)
open Config (BackendKind)

-- ---------------------------------------------------------------------------
-- Readers and writers in use
-- ---------------------------------------------------------------------------

variable {σ : Type}

/-- A session, and the readers that were handed out. -/
structure Desk (σ : Type) where
  session : Session σ
  readers : List Reader := []

namespace Desk

/-- A step of a client: one of a session, or a read into a buffer. -/
inductive Event
  | serve (e : Session.Event)
  | read (ctx : Context) (number : Nat) (buffer : Bytes) (offset : Int)

inductive Outcome
  | served (o : Session.Outcome)
  | read (r : Except FsError ReadResult)
  /-- No reader of this number was handed out. -/
  | noReader

def handedOut : Session.Outcome → List Reader
  | .answered (.ok (.reader r)) => [r]
  | _ => []

/-- One step: what the client is told, and what there is afterwards. -/
def step (b : Backend (World σ)) (settings : Settings) (d : Desk σ) : Event → Outcome × Desk σ
  | .serve e =>
    let (outcome, session) := d.session.step b settings e
    (.served outcome, ⟨session, d.readers ++ handedOut outcome⟩)
  | .read ctx number buffer offset =>
    match d.readers[number]? with
    | none => (.noReader, d)
    | some r =>
      let (answer, world) := ctx.run b (r.readAt buffer offset).run d.session.world
      (.read answer, { d with session := { d.session with world } })

/-- What opening the directory for uploads comes to. -/
def staging (settings : Settings) (d : Desk σ) : Except IoError Unit :=
  (HostAction.perform d.session.world.host (.openUnnamed settings.stagingDir)).1

def Event.Opens : Event → Prop
  | .serve (.request _ _ r) => r.method = .put ∨ r.method = .openFile
  | _ => False

/-- Steps that are the same, but for requests, which are related by `R`. -/
inductive Event.Beside (R : Request → Request → Prop) : Event → Event → Prop
  | request (ctx : Context) (now : Int) {r r' : Request} (h : R r r') :
      Beside R (.serve (.request ctx now r)) (.serve (.request ctx now r'))
  | write (number : Nat) (data : Bytes) (offset : Int) :
      Beside R (.serve (.write number data offset)) (.serve (.write number data offset))
  | close (ctx : Context) (now : Int) (number : Nat) :
      Beside R (.serve (.close ctx now number)) (.serve (.close ctx now number))
  | drop (number : Nat) : Beside R (.serve (.drop number)) (.serve (.drop number))
  | read (ctx : Context) (number : Nat) (buffer : Bytes) (offset : Int) :
      Beside R (.read ctx number buffer offset) (.read ctx number buffer offset)

theorem Event.Beside.imp {R S : Request → Request → Prop} {e e' : Event} (h : e.Beside R e')
    (himp : ∀ r r', R r r' → S r r') : e.Beside S e' := by
  cases h with
  | request ctx now h => exact .request ctx now (himp _ _ h)
  | write number data offset => exact .write number data offset
  | close ctx now number => exact .close ctx now number
  | drop number => exact .drop number
  | read ctx number buffer offset => exact .read ctx number buffer offset

/-- The objects that two steps create. -/
def Outcome.created : Outcome → Outcome → List (ObjectId × ObjectId)
  | .served (.closed r), .served (.closed r') => Renaming.created r r'
  | _, _ => []

end Desk

/-- What clients are told is the same but for identifiers. -/
inductive Manner.Outcomes (M : Manner) (ρ : Renaming) : Desk.Outcome → Desk.Outcome → Prop
  | answered {r r' : Except FsError Response} (h : M.Ends ρ (M.Responses ρ) r r') :
      Outcomes M ρ (.served (.answered r)) (.served (.answered r'))
  | wrote {r r' : Except FsError Unit} (h : M.Ends ρ Eq r r') :
      Outcomes M ρ (.served (.wrote r)) (.served (.wrote r'))
  | closed {r r' : Except FsError ObjectId}
      (h : M.Ends ρ (fun id id' => (id, id') ∈ ρ.objects) r r') :
      Outcomes M ρ (.served (.closed r)) (.served (.closed r'))
  | dropped : Outcomes M ρ (.served .dropped) (.served .dropped)
  | noWriter : Outcomes M ρ (.served .noWriter) (.served .noWriter)
  | read {r r' : Except FsError ReadResult} (h : M.Ends ρ Eq r r') :
      Outcomes M ρ (.read r) (.read r')
  | noReader : Outcomes M ρ .noReader .noReader

theorem Manner.Outcomes.mono {M : Manner} {ρ later : Renaming} (hsub : ρ.Sub later)
    {o o' : Desk.Outcome} (h : M.Outcomes ρ o o') : M.Outcomes later o o' := by
  cases h with
  | answered h => exact .answered (h.mono hsub fun _ _ hr => hr.mono hsub)
  | wrote h => exact .wrote (h.mono hsub fun _ _ => id)
  | closed h => exact .closed (h.mono hsub fun _ _ hid => hsub.objects hid)
  | dropped => exact .dropped
  | noWriter => exact .noWriter
  | read h => exact .read (h.mono hsub fun _ _ => id)
  | noReader => exact .noReader

-- ---------------------------------------------------------------------------
-- One step
-- ---------------------------------------------------------------------------

namespace Desk

variable {k : BackendKind} {s : Origins k} {M : Manner} {ρ later : Renaming}
  {settings : Settings}
  {d d' : Desk k.Store}

/-- The worlds hold the same in the part, and the readers and writers are the same, all but for
identifiers. -/
structure Twins (s : Origins k) (ρ : Renaming) (d d' : Desk k.Store) : Prop where
  worlds : ∃ m m', Neighbours s ρ d.session.world d'.session.world m m'
  writers : Forall₂ (Option.Rel (s.manner.Writers ρ)) d.session.writers d'.session.writers
  readers : Forall₂ (s.manner.Readers ρ) d.readers d'.readers

theorem rel_writers_mono (hsub : ρ.Sub later) {w w' : Option Writer}
    (h : Option.Rel (M.Writers ρ) w w') : Option.Rel (M.Writers later) w w' := by
  cases h with
  | none => exact .none
  | some h => exact .some (h.mono hsub)

theorem Twins.writer?_rel (h : Twins s ρ d d') (number : Nat) :
    Option.Rel (s.manner.Writers ρ) (d.session.writer? number) (d'.session.writer? number) := by
  have hfound := forall₂_getElem? h.writers number
  unfold Session.writer?
  generalize d.session.writers[number]? = found at hfound ⊢
  generalize d'.session.writers[number]? = found' at hfound ⊢
  cases hfound with
  | none => exact .none
  | some h => exact h

/-- Answers that are the same hand out the same. -/
theorem handedOut_rel {r r' : Except FsError Response} (h : M.Ends ρ (M.Responses ρ) r r') :
    Forall₂ (Option.Rel (M.Writers ρ)) (Session.handedOut r) (Session.handedOut r') ∧
      Forall₂ (M.Readers ρ) (handedOut (.answered r)) (handedOut (.answered r')) := by
  cases h with
  | error => exact ⟨.nil, .nil⟩
  | ok h =>
    cases h with
    | reader h => exact ⟨.nil, .cons h .nil⟩
    | writer h => exact ⟨.cons (.some h) .nil, .nil⟩
    | _ => exact ⟨.nil, .nil⟩

/-- The steps told clients the same, and what they left are twins. -/
def Stepped (s : Origins k) (ρ : Renaming) (r r' : Outcome × Desk k.Store) : Prop :=
  ∃ later : Renaming, ρ.Sub later ∧ later.objects = ρ.objects ++ r.1.created r'.1 ∧
    s.manner.Outcomes later r.1 r'.1 ∧ Twins s later r.2 r'.2

section

variable {ctx : Context} {now : Int} {number : Nat} {data buffer : Bytes} {offset : Int}

theorem Twins.request (h : Twins s ρ d d') (hs : s.owner = settings.owner) {r r' : Request}
    (hr : r.Beside s.manner ρ r')
    (hstaging : r.method = .put ∨ r.method = .openFile → d.staging settings = d'.staging settings)
    (hleft : Unharmed s.left
      (d.step k.backend settings (.serve (.request ctx now r))).2.session.world.host.ids)
    (hright : Unharmed s.right
      (d'.step k.backend settings (.serve (.request ctx now r'))).2.session.world.host.ids) :
    Stepped s ρ (d.step k.backend settings (.serve (.request ctx now r)))
      (d'.step k.backend settings (.serve (.request ctx now r'))) := by
  obtain ⟨m, m', hworlds⟩ := h.worlds
  let g := d.session.gateway k.backend settings now
  -- The directory for uploads matters only where a writer is asked for.
  let opens (dir : Option String) : Prop :=
    dir = settings.stagingDir ∧ (r.method = .put ∨ r.method = .openFile)
  have hp : FsProgram.InStep s.manner s.owner opens (·.objects = ρ.objects) s.manner.Responses ρ
      (g.dispatch r) ((d'.session.gateway k.backend settings now).dispatch r') :=
    hs ▸ g.dispatch_inStep hr (fun hwrites => ⟨rfl, hwrites⟩) _
  have hlooks : (g.dispatch r).Confined (fun c => ∀ dir, opens dir → c.isMutating = false)
      fun _ => True := by
    by_cases hwrites : r.method = .put ∨ r.method = .openFile
    · exact FsProgram.Confined.mono (g.dispatch_peeks_of_writes hwrites) (fun _ hc _ _ => hc)
        fun _ => id
    · exact (g.dispatch_confined r).mono (fun _ _ _ hopen => absurd hopen.2 hwrites)
        fun _ _ => trivial
  have hopens : ∀ dir, opens dir →
      (HostAction.perform d.session.world.host (.openUnnamed dir)).1 =
        (HostAction.perform d'.session.world.host (.openUnnamed dir)).1 := by
    rintro _ ⟨rfl, hwrites⟩
    exact hstaging hwrites
  obtain ⟨later, hsub, hlater, hobjects, hends⟩ := hworlds.run hp hlooks hopens hleft hright
  obtain ⟨hwriters, hreaders⟩ := handedOut_rel hends
  refine ⟨later, hsub, hobjects.trans (List.append_nil _).symm, .answered hends, hlater, ?_, ?_⟩
  · exact List.rel_append (h.writers.imp fun _ _ => rel_writers_mono hsub) hwriters
  · exact List.rel_append (h.readers.imp fun _ _ hreader => hreader.mono hsub) hreaders

theorem Twins.write (h : Twins s ρ d d') :
    Stepped s ρ (d.step k.backend settings (.serve (.write number data offset)))
      (d'.step k.backend settings (.serve (.write number data offset))) := by
  have hfound := h.writer?_rel number
  simp only [step, Session.step]
  generalize d.session.writer? number = found at hfound ⊢
  generalize d'.session.writer? number = found' at hfound ⊢
  cases hfound with
  | none =>
    exact ⟨ρ, .refl ρ, (List.append_nil _).symm, .noWriter, h.worlds, h.writers,
      List.rel_append h.readers .nil⟩
  | @some w w' hw =>
    cases offset with
    | ofNat offset =>
      refine ⟨ρ, .refl ρ, (List.append_nil _).symm, .wrote (.ok rfl), h.worlds, ?_,
        List.rel_append h.readers .nil⟩
      refine forall₂_set h.writers number (.some { hw with staging := ?_ })
      rw [hw.staging]
    | negSucc offset =>
      refine ⟨ρ, .refl ρ, (List.append_nil _).symm, .wrote (.error ?_), h.worlds, h.writers,
        List.rel_append h.readers .nil⟩
      exact ⟨s.manner.texts_of_names hw.path, rfl⟩

theorem Twins.close (h : Twins s ρ d d') (hs : s.owner = settings.owner)
    (hleft : Unharmed s.left
      (d.step k.backend settings (.serve (.close ctx now number))).2.session.world.host.ids)
    (hright : Unharmed s.right
      (d'.step k.backend settings (.serve (.close ctx now number))).2.session.world.host.ids) :
    Stepped s ρ (d.step k.backend settings (.serve (.close ctx now number)))
      (d'.step k.backend settings (.serve (.close ctx now number))) := by
  obtain ⟨m, m', hworlds⟩ := h.worlds
  have hfound := h.writer?_rel number
  simp only [step, Session.step] at hleft hright ⊢
  generalize d.session.writer? number = found at hfound hleft ⊢
  generalize d'.session.writer? number = found' at hfound hright ⊢
  cases hfound with
  | none =>
    exact ⟨ρ, .refl ρ, (List.append_nil _).symm, .noWriter, h.worlds, h.writers,
      List.rel_append h.readers .nil⟩
  | @some w w' hw =>
    let g := d.session.gateway k.backend settings now
    obtain ⟨later, hsub, hlater, hobjects, hends⟩ :=
      hworlds.run_unopened (hs ▸ Writer.close_inStep hw g _) (g.close_confined w) hleft hright
    refine ⟨later, hsub, hobjects, .closed hends, hlater, ?_, ?_⟩
    · exact forall₂_set (h.writers.imp fun _ _ => rel_writers_mono hsub) number .none
    · exact List.rel_append (h.readers.imp fun _ _ hreader => hreader.mono hsub) .nil

theorem Twins.read (h : Twins s ρ d d')
    (hleft : Unharmed s.left
      (d.step k.backend settings (.read ctx number buffer offset)).2.session.world.host.ids)
    (hright : Unharmed s.right
      (d'.step k.backend settings (.read ctx number buffer offset)).2.session.world.host.ids) :
    Stepped s ρ (d.step k.backend settings (.read ctx number buffer offset))
      (d'.step k.backend settings (.read ctx number buffer offset)) := by
  obtain ⟨m, m', hworlds⟩ := h.worlds
  have hfound := forall₂_getElem? h.readers number
  simp only [step] at hleft hright ⊢
  generalize d.readers[number]? = found at hfound hleft ⊢
  generalize d'.readers[number]? = found' at hfound hright ⊢
  cases hfound with
  | none => exact ⟨ρ, .refl ρ, (List.append_nil _).symm, .noReader, h⟩
  | @some r r' hr =>
    obtain ⟨later, hsub, hlater, rfl, hends⟩ :=
      hworlds.run_unopened (Reader.readAt_inStep hr buffer offset) (r.readAt_peeks buffer offset)
        hleft hright
    exact ⟨later, hsub, (List.append_nil _).symm, .read hends, hlater, h.writers, h.readers⟩

end

theorem Twins.step (h : Twins s ρ d d') (hs : s.owner = settings.owner) {e e' : Event}
    (he : e.Beside (Request.Beside s.manner ρ) e')
    (hstaging : e.Opens → d.staging settings = d'.staging settings)
    (hleft : Unharmed s.left (d.step k.backend settings e).2.session.world.host.ids)
    (hright : Unharmed s.right (d'.step k.backend settings e').2.session.world.host.ids) :
    Stepped s ρ (d.step k.backend settings e) (d'.step k.backend settings e') := by
  cases he with
  | request ctx now hr => exact h.request hs hr hstaging hleft hright
  | write number data offset => exact h.write
  | close ctx now number => exact h.close hs hleft hright
  | drop number =>
    exact ⟨ρ, .refl ρ, (List.append_nil _).symm, .dropped, h.worlds,
      forall₂_set h.writers number .none, List.rel_append h.readers .nil⟩
  | read ctx number buffer offset => exact h.read hleft hright

theorem step_extends (d : Desk k.Store) (settings : Settings) (e : Event) :
    (d.step k.backend settings e).2.session.world.host.ids.Extends d.session.world.host.ids := by
  cases e with
  | serve e => exact Session.step_extends k.faithful d.session e
  | read ctx number buffer offset =>
    simp only [step]
    split
    · exact .refl _
    · exact k.faithful.run_extends ctx _ _

end Desk
end ObjectGateway
