import ObjectGateway.Proofs.Gateway.Effects
import ObjectGateway.Proofs.Path
/-!
# What a step of a session changes

A step that changes the store carries out one request or closes one writer; every other
step leaves the store as it is. Of the open writers a step changes at most one. What every
such change keeps is kept by all steps of a session.
-/
namespace ObjectGateway

open Memory (Store StoredBucket StoredObject)

namespace Session

variable {σ : Type} {b : Backend (World σ)} {holds : World σ → Store → Prop}
  {settings : Settings} {s s' start : Session σ} {m : Store} {e : Event}

/-- What a step does: to the store that is held, and to the writers. -/
inductive Change (b : Backend (World σ)) (settings : Settings) (s : Session σ) (m : Store) :
    Event → Store → List (Option Writer) → Prop
  /-- A request is carried out; a writer that it hands out is the last one. -/
  | served {ctx : Context} {now : Int} {request : Request} {response : Response} {left : Store}
      (effect : (s.gateway b settings now).Effect m request response left) :
      Change b settings s m (.request ctx now request) left
        (s.writers ++ handedOut (.ok response))
  /-- A writer is closed and what it has staged is stored. -/
  | stored {e : Event} {now : Int} {number : Nat} {writer : Writer} {id : ObjectId} {left : Store}
      (found : s.writer? number = some writer)
      (stores : writer.Stores (s.gateway b settings now) m id left) :
      Change b settings s m e left (s.writers.set number none)
  /-- A writer has staged something more. -/
  | wrote {e : Event} {number : Nat} {writer : Writer} (found : s.writer? number = some writer)
      (staging : Staging) :
      Change b settings s m e m (s.writers.set number (some { writer with staging }))
  /-- A writer is given up. -/
  | released {e : Event} (number : Nat) :
      Change b settings s m e m (s.writers.set number none)
  | idle {e : Event} : Change b settings s m e m s.writers

-- ---------------------------------------------------------------------------
-- Steps
-- ---------------------------------------------------------------------------

/-- A request that is answered has had its effect, and one that fails has had none. -/
theorem step_request (hb : Faithful b holds) (hm : holds s.world m) {ctx : Context} {now : Int}
    {request : Request} {answer : Except FsError Response}
    (hstep : s.step b settings (.request ctx now request) = (.answered answer, s'))
    (hd : s'.world.host.ids.Distinct) :
    (∀ cause, answer = .error cause → holds s'.world m) ∧
    ∀ response, answer = .ok response → ∃ left, holds s'.world left ∧
      (s.gateway b settings now).Effect m request response left := by
  obtain ⟨hanswer, rfl⟩ := Prod.mk.inj hstep
  obtain rfl := Outcome.answered.inj hanswer
  exact (Gateway.dispatch_effect _ (hb.sound hm).apart request).run hb.atomic hm ctx hd

theorem step_change (hb : Faithful b holds) (hm : holds s.world m) (e : Event)
    (hd : (s.step b settings e).2.world.host.ids.Distinct) :
    ∃ left, holds (s.step b settings e).2.world left ∧
      Change b settings s m e left (s.step b settings e).2.writers := by
  cases e with
  | request ctx now request =>
    obtain ⟨hfails, hdoes⟩ := step_request hb hm (Prod.ext rfl rfl) hd
    simp only [step] at hfails hdoes ⊢
    cases hanswer : (ctx.run b ((s.gateway b settings now).dispatch request).run s.world).1 with
    | ok response =>
      obtain ⟨left, hheld, heffect⟩ := hdoes response hanswer
      exact ⟨left, hheld, .served heffect⟩
    | error cause =>
      refine ⟨m, hfails cause hanswer, ?_⟩
      have hsame : Change b settings s m (.request ctx now request) m s.writers := .idle
      rwa [← List.append_nil s.writers] at hsame
  | write number data offset =>
    rw [step_write_world]
    refine ⟨m, hm, ?_⟩
    cases hw : s.writer? number with
    | none =>
      simp only [step, hw]
      exact .idle
    | some writer =>
      cases offset with
      | ofNat offset =>
        simp only [step, hw, Writer.writeAt]
        exact .wrote hw _
      | negSucc offset =>
        simp only [step, hw, Writer.writeAt]
        exact .idle
  | close ctx now number =>
    cases hw : s.writer? number with
    | none =>
      simp only [step, hw]
      exact ⟨m, hm, .idle⟩
    | some writer =>
      rw [step_close hw] at hd ⊢
      obtain ⟨hfails, hdoes⟩ := (writer.close_stores (hb.sound hm).apart
        (s.gateway b settings now)).run hb.atomic hm ctx hd
      cases hanswer : (ctx.run b (writer.close (s.gateway b settings now)).run s.world).1 with
      | ok id =>
        obtain ⟨left, hheld, hstores⟩ := hdoes id hanswer
        exact ⟨left, hheld, .stored hw hstores⟩
      | error cause => exact ⟨m, hfails cause hanswer, .released number⟩
  | drop number => exact ⟨m, hm, .released number⟩

-- ---------------------------------------------------------------------------
-- Runs
-- ---------------------------------------------------------------------------

/-- What every change along a run keeps, of the store and the writers, the run keeps. -/
theorem Run.maintains (hb : Faithful b holds) {I : Store → List (Option Writer) → Prop}
    {log : List (Event × Outcome)} (hrun : Run b settings start log s)
    (hchange : ∀ log' s m e outcome left writers, Run b settings start log' s →
      log' ++ [(e, outcome)] <+: log → holds s.world m → I m s.writers →
      Change b settings s m e left writers → I left writers)
    (hstart : ∃ m, holds start.world m ∧ I m start.writers) (hd : s.world.host.ids.Distinct) :
    ∃ m, holds s.world m ∧ I m s.writers := by
  induction hrun with
  | start => exact hstart
  | @step log s hrun e ih =>
    obtain ⟨m, hm, hI⟩ := ih
      (fun log' s m e outcome left writers hrun' hpre =>
        hchange log' s m e outcome left writers hrun' (hpre.trans (List.prefix_append _ _)))
      (hd.of_extends (step_extends hb s e))
    obtain ⟨left, hheld, hmoves⟩ := step_change hb hm e hd
    exact ⟨left, hheld, hchange log s m e _ left _ hrun (List.prefix_refl _) hm hI hmoves⟩

end Session

-- ---------------------------------------------------------------------------
-- Names
-- ---------------------------------------------------------------------------

/-- Buckets and objects are labelled the way gateways do it, with names of the kind `P`. -/
def Memory.Store.LabelledBy (P : String → Prop) (m : Store) : Prop :=
  m.Each
    (fun info => ∃ name now, P name ∧ info.attributes = .named Attributes.nameKey name now)
    (fun o => o.parent = none ∧ ∃ name now, P name ∧
      o.info.attributes = .named Attributes.fileNameKey name now)

namespace Memory.Store.LabelledBy

variable {P : String → Prop} {m : Store} {b : StoredBucket} {o : StoredObject}

theorem labelled (h : m.LabelledBy P) : m.Labelled where
  buckets b hb := by
    obtain ⟨⟨name, now, -, hlabel⟩, -⟩ := h b hb
    exact ⟨name, now, hlabel⟩
  objects b hb o ho := by
    obtain ⟨hroot, name, now, -, hlabel⟩ := (h b hb).2 o ho
    exact ⟨hroot, name, now, hlabel⟩

theorem bucket_name (h : m.LabelledBy P) (hb : b ∈ m.buckets) : P b.name := by
  obtain ⟨⟨name, now, hname, hlabel⟩, -⟩ := h b hb
  simpa [StoredBucket.name, hlabel, Attributes.get?_named Attributes.nameKey_ne] using hname

theorem object_name (h : m.LabelledBy P) (hb : b ∈ m.buckets) (ho : o ∈ b.objects) : P o.name := by
  obtain ⟨-, name, now, hname, hlabel⟩ := (h b hb).2 o ho
  simpa [StoredObject.name, hlabel, Attributes.get?_named Attributes.fileNameKey_ne] using hname

end Memory.Store.LabelledBy

variable {P : String → Prop} {m left : Store}

/-- What all buckets and objects are, they are after a request when the bucket that it may
create is. -/
theorem Gateway.Effect.each {g : Gateway} {request : Request} {response : Response}
    {B : BucketMeta → Prop} {O : StoredObject → Prop} (h : g.Effect m request response left)
    (hm : m.Each B O) (hnew : ∀ id name, request.path = .bucket name → B (g.newBucket id name).info) :
    left.Each B O := by
  have hleaves := h.leaves
  cases request with
  | mkdir path =>
    obtain ⟨-, hgains⟩ := hleaves
    exact hgains.each hm ⟨hnew _ _ rfl, fun _ ho => nomatch ho⟩
  | remove path | rmdir path =>
    cases hleaves with
    | object _ _ hloses => exact hloses.each hm
    | bucket _ hloses => exact hloses.each hm
  | _ =>
    obtain rfl := hleaves
    exact hm

/-- So they are after a writer has been closed when the new object is. -/
theorem Writer.Stores.each {g : Gateway} {writer : Writer} {id : ObjectId}
    {B : BucketMeta → Prop} {O : StoredObject → Prop} (h : writer.Stores g m id left)
    (hm : m.Each B O) (hnew : O (.ofHeader id (writer.header g) writer.staging.content)) :
    left.Each B O := by
  obtain ⟨-, found, -, hgains⟩ := h
  exact hgains.each hm hnew

/-- A request whose path has such names keeps to them. -/
theorem Gateway.Effect.labelledBy {g : Gateway} {request : Request} {response : Response}
    (h : g.Effect m request response left) (hpath : request.path.Each P) (hm : m.LabelledBy P) :
    left.LabelledBy P := by
  refine h.each hm fun id name hname => ?_
  rw [hname] at hpath
  exact ⟨name, g.now, hpath, rfl⟩

theorem Writer.Stores.labelledBy {g : Gateway} {writer : Writer} {id : ObjectId}
    (h : writer.Stores g m id left) (hname : P writer.name) (hm : m.LabelledBy P) :
    left.LabelledBy P :=
  h.each hm ⟨rfl, writer.name, g.now, hname, rfl⟩

theorem Gateway.Effect.handedOut {g : Gateway} {request : Request} {response : Response}
    (h : g.Effect m request response left) (hpath : request.path.Each P) {w : Writer}
    (hw : some w ∈ Session.handedOut (.ok response)) : P w.name := by
  obtain hnone | ⟨writer, hresponse, hsome⟩ := Session.handedOut_cases (.ok response)
  · rw [hnone] at hw
    cases hw
  · rw [hsome] at hw
    obtain rfl := Option.some.inj (List.mem_singleton.mp hw)
    have hopens := h.opens w (Except.ok.inj hresponse)
    generalize request.path = path at hpath hopens
    cases hopens with
    | object => exact hpath.2

namespace Session

variable {σ : Type} {b : Backend (World σ)} {holds : World σ → Store → Prop}
  {settings : Settings} {s start : Session σ} {e : Event} {writers : List (Option Writer)}

/-- The paths of requests have names of the kind `P`. -/
def Event.Names (P : String → Prop) : Event → Prop
  | .request _ _ r => r.path.Each P
  | _ => True

theorem Event.names_true (e : Event) : e.Names fun _ => True := by
  cases e with
  | request ctx now r => exact r.path.each_true
  | _ => trivial

theorem mem_of_writer? {number : Nat} {w : Writer} (h : s.writer? number = some w) :
    some w ∈ s.writers :=
  List.mem_of_getElem? (Option.join_eq_some_iff.mp h)

/-- A writer that is open after another one was given up was open before. -/
theorem mem_of_mem_set_none {number : Nat} {w : Writer} (h : some w ∈ writers.set number none) :
    some w ∈ writers := by
  obtain hold | hnew := List.mem_or_eq_of_mem_set h
  · exact hold
  · cases hnew

/-- A change keeps to the names that paths have. -/
theorem Change.labelledBy (h : Change b settings s m e left writers) (he : e.Names P)
    (hI : m.LabelledBy P ∧ ∀ w, some w ∈ s.writers → P w.name) :
    left.LabelledBy P ∧ ∀ w, some w ∈ writers → P w.name := by
  obtain ⟨hm, hwriters⟩ := hI
  cases h with
  | served heffect =>
    refine ⟨heffect.labelledBy he hm, fun w hw => ?_⟩
    obtain hold | hnew := List.mem_append.mp hw
    · exact hwriters w hold
    · exact heffect.handedOut he hnew
  | @stored _ now number writer id _ hfound hstores =>
    exact ⟨hstores.labelledBy (hwriters writer (mem_of_writer? hfound)) hm,
      fun w hw => hwriters w (mem_of_mem_set_none hw)⟩
  | @wrote _ number writer hfound staging =>
    refine ⟨hm, fun w hw => ?_⟩
    obtain hold | hnew := List.mem_or_eq_of_mem_set hw
    · exact hwriters w hold
    · cases hnew
      exact hwriters writer (mem_of_writer? hfound)
  | released number => exact ⟨hm, fun w hw => hwriters w (mem_of_mem_set_none hw)⟩
  | idle => exact ⟨hm, hwriters⟩

/-- All names in a store that a session has filled are names in paths of its requests. -/
theorem Run.labelledBy (hb : Faithful b holds) {world : World σ} {log : List (Event × Outcome)}
    (hrun : Run b settings ⟨world, []⟩ log s) (hstart : holds world {})
    (hnames : ∀ e ∈ log.map Prod.fst, e.Names P) (hd : s.world.host.ids.Distinct) :
    ∃ m, holds s.world m ∧ m.LabelledBy P := by
  obtain ⟨m, hm, hlabelled, -⟩ := hrun.maintains hb
    (I := fun m writers => m.LabelledBy P ∧ ∀ w, some w ∈ writers → P w.name)
    (fun log' s m e outcome left writers _ hpre _ hI hchange =>
      hchange.labelledBy
        (hnames e (List.mem_map_of_mem (hpre.subset (List.mem_append_right _ List.mem_cons_self)))) hI)
    ⟨{}, hstart, fun _ hmem => (List.not_mem_nil hmem).elim, fun _ hw => (List.not_mem_nil hw).elim⟩
    hd
  exact ⟨m, hm, hlabelled⟩

end Session
end ObjectGateway
