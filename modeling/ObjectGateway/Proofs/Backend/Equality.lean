import ObjectGateway.Proofs.Backend.Passing
import ObjectGateway.Proofs.Durable.Integrity
import ObjectGateway.Proofs.Memory.Renaming
/-!
# The backends are observationally equal

Corresponding commands that are given side by side to the store in memory and to the
durable store, both empty at first, are answered alike to the end: with the same
failures, and with the same results but for keys, which are paired one to one.
-/
namespace ObjectGateway

variable {σ σ' : Type}

/-! ## Runs side by side -/

/-- A command on either side and what it was answered there. -/
structure Exchange where
  command : Command
  command' : Command
  answer : Option (Except BackendError command.Answer)
  answer' : Option (Except BackendError command'.Answer)

/-- Both sides answered, and they answered the same but for keys. -/
def Exchange.Agrees (ρ : Renaming) (e : Exchange) : Prop :=
  ∃ answer answer', e.answer = some answer ∧ e.answer' = some answer' ∧
    ρ.Answers e.command e.command' answer answer'

/-- Runs of two backends in step: where they have got to, which identifiers they have
handed out side by side, and what has been exchanged. A command of one side may name
what was returned there, where the other one names what was returned to it, and
identifiers that neither side has handed out. -/
inductive SideBySide (b : Backend (World σ)) (b' : Backend (World σ')) (start : World σ)
    (start' : World σ') : World σ → World σ' → Renaming → List Exchange → Prop
  | start : SideBySide b b' start start' start start' {} []
  | call {w : World σ} {w' : World σ'} {ρ : Renaming} {log : List Exchange} {c c' : Command}
      (h : SideBySide b b' start start' w w' ρ log) (hc : c.Corresponds ρ c') :
      SideBySide b b' start start' (b.call c w).after (b'.call c' w').after
        (ρ.learn c c' (b.call c w).answer (b'.call c' w').answer)
        (log ++ [⟨c, c', (b.call c w).answer, (b'.call c' w').answer⟩])

/-! ## Faithful backends -/

theorem Exchange.Agrees.mono {ρ later : Renaming} {e : Exchange} (h : e.Agrees ρ)
    (hsub : ρ.Sub later) : e.Agrees later := by
  obtain ⟨answer, answer', hanswer, hanswer', hsame⟩ := h
  exact ⟨answer, answer', hanswer, hanswer', hsame.mono hsub⟩

variable {b : Backend (World σ)} {b' : Backend (World σ')}
  {holds : World σ → Memory.Store → Prop} {holds' : World σ' → Memory.Store → Prop}
  {start w : World σ} {start' w' : World σ'} {ρ : Renaming} {log : List Exchange}

/-- The stores that two worlds hold are the same but for keys. -/
def HoldAlike (holds : World σ → Memory.Store → Prop) (holds' : World σ' → Memory.Store → Prop)
    (w : World σ) (w' : World σ') (ρ : Renaming) : Prop :=
  ∃ m m', holds w m ∧ holds' w' m' ∧ Memory.Paired ρ w.host.ids w'.host.ids m m'

/-- One step of two faithful backends. -/
theorem HoldAlike.call (hb : Faithful b holds) (hb' : Faithful b' holds') {c c' : Command}
    (h : HoldAlike holds holds' w w' ρ) (hc : c.Corresponds ρ c')
    (hd : (b.call c w).after.host.ids.Distinct)
    (hd' : (b'.call c' w').after.host.ids.Distinct) :
    HoldAlike holds holds' (b.call c w).after (b'.call c' w').after
        (ρ.learn c c' (b.call c w).answer (b'.call c' w').answer) ∧
      Exchange.Agrees (ρ.learn c c' (b.call c w).answer (b'.call c' w').answer)
        ⟨c, c', (b.call c w).answer, (b'.call c' w').answer⟩ := by
  obtain ⟨m, m', hm, hm', hpaired⟩ := h
  obtain ⟨hcomplete, hcomplete'⟩ := hc.complete
  have hids := hb.ids hm hcomplete
  have hids' := hb'.ids hm' hcomplete'
  rw [hids] at hd
  rw [hids'] at hd'
  obtain ⟨hanswer, hafter⟩ := hb.complete hm hcomplete hd
  obtain ⟨hanswer', hafter'⟩ := hb'.complete hm' hcomplete' hd'
  -- Each side does what the store in memory does, and those two go alongside.
  have halong : Memory.Alongside ρ (Memory.serve ⟨w.host, m⟩ c) (Memory.serve ⟨w'.host, m'⟩ c') :=
    Memory.serve_alongside hpaired (hb.healthy hm) (hb'.healthy hm') hc hd hd'
  rw [hanswer, hanswer']
  exact ⟨⟨_, _, hafter, hafter', by simpa only [hids, hids'] using halong.stores⟩, halong.answers⟩

/-- A run of two faithful backends that hold nothing at first. -/
theorem SideBySide.holdAlike (hb : Faithful b holds) (hb' : Faithful b' holds')
    (hstart : holds start {}) (hstart' : holds' start' {})
    (h : SideBySide b b' start start' w w' ρ log) (hd : w.host.ids.Distinct)
    (hd' : w'.host.ids.Distinct) :
    HoldAlike holds holds' w w' ρ ∧ ∀ e ∈ log, e.Agrees ρ := by
  -- What agreed under the renaming so far agrees under a later one, which knows more pairs.
  induction h with
  | start =>
    refine ⟨⟨{}, {}, hstart, hstart', .nil, ?_, ?_, ?_, ?_⟩, ?_⟩
    · exact ⟨.nil, .nil⟩
    · exact ⟨.nil, .nil⟩
    · simp
    · simp
    · simp
  | @call w w' ρ log c c' _ hc ih =>
    obtain ⟨halike, hlog⟩ := ih (hd.of_extends (hb.extends_after w c))
      (hd'.of_extends (hb'.extends_after w' c'))
    obtain ⟨hafter, hagrees⟩ := halike.call hb hb' hc hd hd'
    refine ⟨hafter, fun e he => ?_⟩
    obtain he | rfl := List.mem_append.mp he |>.imp_right List.mem_singleton.mp
    · exact (hlog e he).mono (ρ.sub_learn _ _ _ _)
    · exact hagrees

/-! ## The store in memory and the durable store -/

/-- The store in memory and the durable store answer alike whatever they are asked, as
long as neither hands out a key twice. -/
theorem memory_durable_agree {start w : World Memory.Store} {start' w' : World Durable.Store}
    (hempty : start.store.buckets = []) (hhealthy : start.store.Healthy)
    (hfresh : Durable.Fresh start')
    (h : SideBySide Memory.backend Durable.backend start start' w w' ρ log)
    (hd : w.host.ids.Distinct) (hd' : w'.host.ids.Distinct) :
    Renaming.OneToOne ρ.buckets ∧ Renaming.OneToOne ρ.objects ∧ ∀ e ∈ log, e.Agrees ρ := by
  have hstart : Memory.Holds start {} :=
    ⟨⟨hhealthy, ⟨rfl, rfl⟩, hempty⟩, ⟨by simp, by simp, by simp⟩⟩
  obtain ⟨⟨_, _, -, -, hpaired⟩, hlog⟩ :=
    h.holdAlike Memory.faithful Durable.faithful hstart hfresh.holds hd hd'
  exact ⟨hpaired.oneBuckets, hpaired.oneObjects, hlog⟩

/-- A command whose answers are known, and what they add to the renaming. -/
theorem SideBySide.answered {c c' : Command} {answer : Except BackendError c.Answer}
    {answer' : Except BackendError c'.Answer} {later : Renaming}
    (h : SideBySide b b' start start' w w' ρ log) (hc : c.Corresponds ρ c')
    (hanswer : (b.call c w).answer = some answer)
    (hanswer' : (b'.call c' w').answer = some answer')
    (hlearn : ρ.learn c c' (some answer) (some answer') = later) :
    SideBySide b b' start start' (b.call c w).after (b'.call c' w').after later
      (log ++ [⟨c, c', some answer, some answer'⟩]) := by
  have hcall := h.call hc
  rwa [hanswer, hanswer', hlearn] at hcall

/-- A command that only looks leaves the durable store where it is. -/
theorem SideBySide.looked {start' w' : World Durable.Store} {c c' : Command}
    (h : SideBySide b Durable.backend start start' w w' ρ log) (hc : c.Corresponds ρ c')
    (hlook : c'.isMutating = false) :
    SideBySide b Durable.backend start start' (b.call c w).after w'
      (ρ.learn c c' (b.call c w).answer (Durable.backend.call c' w').answer)
      (log ++ [⟨c, c', (b.call c w).answer, (Durable.backend.call c' w').answer⟩]) := by
  have hafter : (Durable.backend.call c' w').after = w' := (Durable.call_looked w' hlook).1
  have hcall := h.call hc
  rwa [hafter] at hcall

/-- An object is stored, searched for, read beyond its end and deleted, and then it is missed. -/
def objectCommands (bucket : BucketId) (id : ObjectId) (chunks : List Bytes) : List Command :=
  [.putBucket { owner := Id.nil },
    .putObject { bucket, owner := Id.nil } (.ofChunks chunks),
    .searchObjects bucket [.root],
    .getRange bucket id 2 5,
    .deleteObject bucket id,
    .headObject bucket id]

/-- They are given to a store in memory whose host has drawn seven keys before, and to a durable
store, with the bytes in other chunks. Two keys are drawn on either side. -/
theorem sideBySide_objectCommands :
    ∃ w w' log,
      SideBySide Memory.backend Durable.backend ⟨{ ids := ⟨BitVec.ofNat 128, 7⟩ }, {}⟩
          Durable.emptyWorld w w' ⟨[(⟨7⟩, ⟨0⟩)], [(⟨8⟩, ⟨1⟩)]⟩ log ∧
        log.map Exchange.command = objectCommands ⟨7⟩ ⟨8⟩ [[1], [2, 3]] ∧
        log.map Exchange.command' = objectCommands ⟨0⟩ ⟨1⟩ [[1, 2], [3]] ∧
        w.host.ids = ⟨BitVec.ofNat 128, 9⟩ ∧ w'.host.ids = Durable.objectWorld.host.ids := by
  obtain ⟨hanswer, m, hheld, -⟩ := Durable.objectWorld_holds
  let start : World Memory.Store := ⟨{ ids := ⟨BitVec.ofNat 128, 7⟩ }, {}⟩
  let made : Renaming := ⟨[(⟨7⟩, ⟨0⟩)], []⟩
  let stored : Renaming := ⟨[(⟨7⟩, ⟨0⟩)], [(⟨8⟩, ⟨1⟩)]⟩
  let create : Command := .putBucket { owner := Id.nil }
  let put : Command := .putObject { bucket := ⟨7⟩, owner := Id.nil } (.ofChunks [[1], [2, 3]])
  have hstart : SideBySide Memory.backend Durable.backend start Durable.emptyWorld start
      Durable.emptyWorld {} [] := .start
  have hmade : SideBySide Memory.backend Durable.backend start Durable.emptyWorld
      (Memory.backend.call create start).after Durable.bucketWorld made _ :=
    hstart.answered (.putBucket { owner := Id.nil }) rfl rfl rfl
  -- The two identifiers of the bucket are partners from now on.
  have hbucket : Renaming.Named made.buckets ⟨7⟩ ⟨0⟩ := .inl List.mem_cons_self
  have hsame : put.Corresponds made
      (.putObject { bucket := ⟨0⟩, owner := Id.nil } (.ofChunks [[1, 2], [3]])) :=
    .putObject hbucket .none Id.nil {} (PayloadStream.drain_ofChunks [[1], [2, 3]])
      (PayloadStream.drain_ofChunks [[1, 2], [3]]) rfl
  have hput : (Memory.backend.call put (Memory.backend.call create start).after).answer =
      some (.ok ⟨8⟩) := rfl
  have hstored : SideBySide Memory.backend Durable.backend start Durable.emptyWorld _
      Durable.objectWorld stored _ := hmade.answered hsame hput hanswer rfl
  -- And so are those of the object. The other commands create nothing.
  have hbucket : Renaming.Named stored.buckets ⟨7⟩ ⟨0⟩ := .inl List.mem_cons_self
  have hobject : Renaming.Named stored.objects ⟨8⟩ ⟨1⟩ := .inl List.mem_cons_self
  have hfound : SideBySide Memory.backend Durable.backend start Durable.emptyWorld _
      Durable.objectWorld stored _ := hstored.looked (.searchObjects hbucket [.root]) rfl
  have hread : SideBySide Memory.backend Durable.backend start Durable.emptyWorld _
      Durable.objectWorld stored _ := hfound.looked (.getRange hbucket hobject 2 5) rfl
  have hdeleted := hread.call (.deleteObject hbucket hobject)
  have hmissed := hdeleted.looked (.headObject hbucket hobject) rfl
  have hids := Durable.faithful.ids (c := .deleteObject ⟨0⟩ ⟨1⟩) hheld trivial
  have hnone : (Memory.serve ⟨Durable.objectWorld.host, m⟩
      (.deleteObject ⟨0⟩ ⟨1⟩)).after.host.ids = Durable.objectWorld.host.ids := by
    simp only [Memory.serve]
    split <;> rfl
  exact ⟨_, _, _, hmissed, rfl, rfl, rfl, hids.trans hnone⟩

theorem memory_durable_agree_objectCommands :
    let start : World Memory.Store := ⟨{ ids := ⟨BitVec.ofNat 128, 7⟩ }, {}⟩
    let ρ : Renaming := ⟨[(⟨7⟩, ⟨0⟩)], [(⟨8⟩, ⟨1⟩)]⟩
    ∃ w w' log,
      SideBySide Memory.backend Durable.backend start Durable.emptyWorld w w' ρ log ∧
        log.map Exchange.command = objectCommands ⟨7⟩ ⟨8⟩ [[1], [2, 3]] ∧
        log.map Exchange.command' = objectCommands ⟨0⟩ ⟨1⟩ [[1, 2], [3]] ∧
        w.host.ids.Distinct ∧ w'.host.ids.Distinct ∧
        Renaming.OneToOne ρ.buckets ∧ Renaming.OneToOne ρ.objects ∧ ∀ e ∈ log, e.Agrees ρ := by
  intro start ρ
  obtain ⟨w, w', log, hrun, hcommands, hcommands', hids, hids'⟩ := sideBySide_objectCommands
  have hd : w.host.ids.Distinct := hids ▸ IdSupply.distinct_counting (by decide)
  have hd' : w'.host.ids.Distinct := hids' ▸ Durable.distinct_objectWorld
  exact ⟨w, w', log, hrun, hcommands, hcommands', hd, hd',
    memory_durable_agree rfl ⟨rfl, rfl⟩ Durable.fresh_emptyWorld hrun hd hd'⟩

end ObjectGateway
