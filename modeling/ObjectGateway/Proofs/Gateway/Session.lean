import ObjectGateway.Proofs.Gateway.Commands
import ObjectGateway.Proofs.Gateway.Staging
/-!
# Sessions

Clients make requests and work with the writers they get, in any order. A session keeps
the world and the writers that are open, by number. What a client was told at each step
is on record, so it can be said which writes of a writer were accepted.
-/
namespace ObjectGateway

variable {σ : Type}

structure Session (σ : Type) where
  world : World σ
  /-- The writers that were handed out; nothing in place of one that is closed or dropped. -/
  writers : List (Option Writer) := []

namespace Session

/-- A step of a client. -/
inductive Event
  | request (ctx : Context) (now : Int) (r : Request)
  | write (number : Nat) (data : Bytes) (offset : Int)
  | close (ctx : Context) (now : Int) (number : Nat)
  | drop (number : Nat)

inductive Outcome
  | answered (r : Except FsError Response)
  | wrote (r : Except FsError Unit)
  | closed (r : Except FsError ObjectId)
  | dropped
  /-- The writer is not open. -/
  | noWriter

def writer? (s : Session σ) (number : Nat) : Option Writer :=
  (s.writers[number]?).join

def gateway (b : Backend (World σ)) (settings : Settings) (s : Session σ) (now : Int) : Gateway :=
  ⟨settings, b.maxChunk s.world, now⟩

def handedOut : Except FsError Response → List (Option Writer)
  | .ok (.writer w) => [some w]
  | _ => []

/-- One step: what the client is told, and the session afterwards. -/
def step (b : Backend (World σ)) (settings : Settings) (s : Session σ) :
    Event → Outcome × Session σ
  | .request ctx now r =>
    let (answer, world) := ctx.run b ((s.gateway b settings now).dispatch r).run s.world
    (.answered answer, ⟨world, s.writers ++ handedOut answer⟩)
  | .write number data offset =>
    match s.writer? number with
    | none => (.noWriter, s)
    | some w =>
      match w.writeAt data offset with
      | .ok w => (.wrote (.ok ()), { s with writers := s.writers.set number (some w) })
      | .error cause => (.wrote (.error cause), s)
  | .close ctx now number =>
    match s.writer? number with
    | none => (.noWriter, s)
    | some w =>
      let (answer, world) := ctx.run b (w.close (s.gateway b settings now)).run s.world
      (.closed answer, ⟨world, s.writers.set number none⟩)
  | .drop number => (.dropped, { s with writers := s.writers.set number none })

theorem step_close {b : Backend (World σ)} {settings : Settings} {s : Session σ} {number : Nat}
    {w : Writer} (h : s.writer? number = some w) (ctx : Context) (now : Int) :
    s.step b settings (.close ctx now number) =
      (.closed (ctx.run b (w.close (s.gateway b settings now)).run s.world).1,
        ⟨(ctx.run b (w.close (s.gateway b settings now)).run s.world).2,
          s.writers.set number none⟩) := by
  simp only [step, h]

theorem step_write_negative {b : Backend (World σ)} {settings : Settings} {s : Session σ}
    {number : Nat} {w : Writer} (h : s.writer? number = some w) (data : Bytes) {offset : Int}
    (hoffset : offset < 0) :
    s.step b settings (.write number data offset) =
      (.wrote (.error (.invalid w.path "negative write offset")), s) := by
  cases offset with
  | ofNat offset => exact absurd hoffset (Int.not_lt.mpr (Int.natCast_nonneg offset))
  | negSucc offset => simp only [step, h, Writer.writeAt]

/-- A session and the record of the steps that led to it. -/
inductive Run (b : Backend (World σ)) (settings : Settings) (start : Session σ) :
    List (Event × Outcome) → Session σ → Prop
  | start : Run b settings start [] start
  | step {log : List (Event × Outcome)} {s : Session σ} (h : Run b settings start log s)
      (e : Event) :
      Run b settings start (log ++ [(e, (s.step b settings e).1)]) (s.step b settings e).2

/-- The record of some steps, and the session they lead to. -/
def after (b : Backend (World σ)) (settings : Settings) (start : Session σ)
    (events : List Event) : List (Event × Outcome) × Session σ :=
  events.foldl (fun (log, s) e => (log ++ [(e, (s.step b settings e).1)], (s.step b settings e).2))
    ([], start)

theorem run_after (b : Backend (World σ)) (settings : Settings) (start : Session σ)
    (events : List Event) :
    Run b settings start (after b settings start events).1 (after b settings start events).2 := by
  -- The record grows at its end, so the steps are taken behind any record so far.
  have hfold : ∀ (events : List Event) (log : List (Event × Outcome)) (s : Session σ),
      Run b settings start log s →
        let r := events.foldl (fun (log, s) e =>
          (log ++ [(e, (s.step b settings e).1)], (s.step b settings e).2)) (log, s)
        Run b settings start r.1 r.2 := by
    intro events
    induction events with
    | nil => exact fun _ _ h => h
    | cons e rest ih => exact fun _ _ h => ih _ _ (h.step e)
  exact hfold events [] start .start

/-- The writes of one writer that were accepted, in order: offset and data of each. -/
def accepted (number : Nat) (log : List (Event × Outcome)) : List (Nat × Bytes) :=
  log.filterMap fun
    | (.write target data offset, .wrote (.ok ())) =>
      if target = number then some (offset.toNat, data) else none
    | _ => none

variable {b : Backend (World σ)} {settings : Settings} {s start : Session σ}
  {log : List (Event × Outcome)} {number : Nat} {w : Writer}

/-! ## The writers -/

theorem lt_length_of_writer? (h : s.writer? number = some w) : number < s.writers.length := by
  unfold writer? at h
  cases hopen : s.writers[number]? with
  | none => simp [hopen] at h
  | some found => exact (List.getElem?_eq_some_iff.mp hopen).1

theorem writer?_set (s : Session σ) (world : World σ) (target number : Nat)
    (found : Option Writer) :
    writer? ⟨world, s.writers.set target found⟩ number =
      if number = target then (if target < s.writers.length then found else none)
      else s.writer? number := by
  unfold writer?
  rw [List.getElem?_set]
  by_cases h : number = target
  · subst h
    simp only [if_true]
    exact apply_ite Option.join _ _ _
  · rw [if_neg h, if_neg (Ne.symm h)]

theorem accepted_append (number : Nat) (log log' : List (Event × Outcome)) :
    accepted number (log ++ log') = accepted number log ++ accepted number log' :=
  List.filterMap_append

/-- Each open writer is one that was open at the start, or was handed out since, with the
writes that have been accepted. -/
structure Tracks (start : Session σ) (log : List (Event × Outcome)) (s : Session σ) : Prop where
  staged : ∀ {number w}, s.writer? number = some w → ∃ origin : Writer,
    (start.writer? number = some origin ∨
      start.writers.length ≤ number ∧ origin.staging = {}) ∧
    w = { origin with staging := ⟨origin.staging.writes ++ accepted number log⟩ }
  longer : start.writers.length ≤ s.writers.length
  unused : ∀ {number}, s.writers.length ≤ number → accepted number log = []

theorem Tracks.refl (start : Session σ) : Tracks start [] start where
  staged {_ w} hw := ⟨w, .inl hw, by simp [accepted]⟩
  longer := Nat.le_refl _
  unused _ := rfl

/-- A writer that leaves does not disturb the others. -/
theorem Tracks.release (h : Tracks start log s) (world : World σ) (target : Nat) :
    Tracks start log ⟨world, s.writers.set target none⟩ where
  staged hw := by
    rw [writer?_set] at hw
    split at hw
    · split at hw <;> cases hw
    · exact h.staged hw
  longer := by simpa using h.longer
  unused hlength := h.unused (by simpa using hlength)

theorem handedOut_cases (answer : Except FsError Response) :
    handedOut answer = [] ∨ ∃ w, answer = .ok (.writer w) ∧ handedOut answer = [some w] := by
  unfold handedOut
  split
  · exact .inr ⟨_, rfl, rfl⟩
  · exact .inl rfl

/-- A writer that is handed out has staged nothing yet. -/
theorem Tracks.handOut (h : Tracks start log s) (world : World σ)
    {answer : Except FsError Response} (hanswer : ∀ r, answer = .ok r → r.Unstaged) :
    Tracks start log ⟨world, s.writers ++ handedOut answer⟩ := by
  obtain hnone | ⟨w, rfl, hsome⟩ := handedOut_cases answer
  · rw [hnone, List.append_nil]
    exact ⟨h.staged, h.longer, h.unused⟩
  · rw [hsome]
    refine ⟨?_, ?_, ?_⟩
    · intro number w' hw'
      have hplace := lt_length_of_writer? hw'
      -- It was open before, or it is the one that has just been handed out.
      obtain hold | hlast : number < s.writers.length ∨ number = s.writers.length := by
        simp only [List.length_append, List.length_singleton] at hplace
        omega
      · apply h.staged
        simpa only [writer?, List.getElem?_append_left hold] using hw'
      · subst hlast
        obtain rfl : w = w' := by simpa [writer?] using hw'
        have hempty : w.staging = {} := hanswer _ rfl w rfl
        refine ⟨w, .inr ⟨h.longer, hempty⟩, ?_⟩
        rw [h.unused (Nat.le_refl _), List.append_nil]
    · rw [List.length_append]
      exact Nat.le_trans h.longer (Nat.le_add_right _ _)
    · intro number hlength
      apply h.unused
      simp only [List.length_append] at hlength
      omega

/-- A write is staged behind those before it. -/
theorem Tracks.write (h : Tracks start log s) (hw : s.writer? number = some w) (data : Bytes)
    (offset : Nat) :
    Tracks start (log ++ [(.write number data offset, .wrote (.ok ()))])
      { s with writers := s.writers.set number
                 (some { w with staging := ⟨w.staging.writes ++ [(offset, data)]⟩ }) } := by
  have hlength := lt_length_of_writer? hw
  refine ⟨?_, ?_, ?_⟩
  · intro target w' hw'
    rw [writer?_set] at hw'
    rw [accepted_append]
    -- The writer that is written to has one write more, the others have none.
    by_cases htarget : target = number
    · subst htarget
      rw [if_pos rfl, if_pos hlength] at hw'
      cases hw'
      obtain ⟨origin, horigin, hsame⟩ := h.staged hw
      refine ⟨origin, horigin, ?_⟩
      rw [hsame]
      simp [accepted]
    · rw [if_neg htarget] at hw'
      obtain ⟨origin, horigin, hsame⟩ := h.staged hw'
      refine ⟨origin, horigin, ?_⟩
      rw [hsame]
      simp [accepted, Ne.symm htarget]
  · rw [List.length_set]
    exact h.longer
  · intro target hbeyond
    rw [List.length_set] at hbeyond
    have htarget : number ≠ target := by omega
    rw [accepted_append, h.unused hbeyond]
    simp [accepted, htarget]

/-- What accepts no write is not counted. -/
theorem Tracks.other (h : Tracks start log s) {e : Event} {o : Outcome}
    (hother : ∀ number, accepted number [(e, o)] = []) : Tracks start (log ++ [(e, o)]) s where
  staged hw := by
    rw [accepted_append, hother, List.append_nil]
    exact h.staged hw
  longer := h.longer
  unused hlength := by rw [accepted_append, h.unused hlength, hother, List.append_nil]

theorem Tracks.step (h : Tracks start log s) (e : Event) :
    Tracks start (log ++ [(e, (s.step b settings e).1)]) (s.step b settings e).2 := by
  -- Only a request adds a writer, and only a write that is accepted adds to one.
  cases e with
  | request ctx now r =>
    refine (h.handOut _ fun answer hanswer => ?_).other fun _ => rfl
    have hconfined := (s.gateway b settings now).dispatch_confined r
    exact (hconfined.run (J := fun _ => True) (fun _ _ _ _ => trivial) trivial).1 answer hanswer
  | write number data offset =>
    cases hw : s.writer? number with
    | none =>
      simp only [Session.step, hw]
      exact h.other fun _ => rfl
    | some w =>
      cases offset with
      | ofNat offset =>
        simp only [Session.step, hw, Writer.writeAt]
        exact h.write hw data offset
      | negSucc offset =>
        simp only [Session.step, hw, Writer.writeAt]
        exact h.other fun _ => rfl
  | close ctx now number =>
    cases hw : s.writer? number with
    | none =>
      simp only [Session.step, hw]
      exact h.other fun _ => rfl
    | some w =>
      simp only [Session.step, hw]
      exact (h.release _ number).other fun _ => rfl
  | drop number => exact (h.release _ number).other fun _ => rfl

theorem Run.tracks (h : Run b settings start log s) : Tracks start log s := by
  induction h with
  | start => exact .refl start
  | step _ e ih => exact ih.step e

/-- All that a writer has staged is what was accepted, if it was handed out since. -/
theorem Run.staged {world : World σ} (h : Run b settings ⟨world, []⟩ log s)
    (hw : s.writer? number = some w) : w.staging.writes = accepted number log := by
  obtain ⟨origin, hnone | ⟨-, hempty⟩, hsame⟩ := h.tracks.staged hw
  · cases hnone
  · rw [hsame, hempty]
    rfl

/-- A writer stays what it is, with the writes that were accepted since. -/
theorem Run.writer_eq (h : Run b settings start log s) {w' : Writer}
    (hw : start.writer? number = some w) (hw' : s.writer? number = some w') :
    w' = { w with staging := ⟨w.staging.writes ++ accepted number log⟩ } := by
  obtain ⟨origin, hsome | ⟨hbeyond, -⟩, hsame⟩ := h.tracks.staged hw'
  · obtain rfl : w = origin := Option.some.inj (hw.symm.trans hsome)
    exact hsame
  · exact absurd (lt_length_of_writer? hw) (Nat.not_lt.mpr hbeyond)

/-! ## The world -/

/-- What every command of a gateway keeps, a step keeps. -/
theorem step_world {J : World σ → Prop}
    (hcall : ∀ (g : Gateway) (ctx : Context) w c, g.settings = settings → g.Gives c → J w →
      J (ctx.settle w (b.call c w)).2)
    (hworld : J s.world) (e : Event) : J (s.step b settings e).2.world := by
  have hrun : ∀ {α : Type} {now : Int} {p : FsProgram α} {P : α → Prop} (ctx : Context),
      (s.gateway b settings now).Confines p P → J (ctx.run b p.run s.world).2 :=
    fun {_ now _ _} ctx hp => (hp.run (fun w c hc hw => hcall _ ctx w c rfl hc hw) hworld).2
  cases e with
  | request ctx now r => exact hrun ctx ((s.gateway b settings now).dispatch_confined r)
  | write number data offset =>
    cases hw : s.writer? number with
    | none => simpa only [step, hw] using hworld
    | some w => cases offset <;> simpa only [step, hw, Writer.writeAt] using hworld
  | close ctx now number =>
    cases hw : s.writer? number with
    | none => simpa only [step, hw] using hworld
    | some w =>
      simp only [step, hw]
      exact hrun ctx ((s.gateway b settings now).close_confined w)
  | drop number => exact hworld

/-- The commands that a gateway of these settings gives. -/
def Given (settings : Settings) (c : Command) : Prop :=
  ∃ g : Gateway, g.settings = settings ∧ g.Gives c

/-- Writing leaves the world alone. -/
theorem step_write_world (s : Session σ) (number : Nat) (data : Bytes) (offset : Int) :
    (s.step b settings (.write number data offset)).2.world = s.world := by
  cases hw : s.writer? number with
  | none => simp only [step, hw]
  | some w => cases offset <;> simp only [step, hw, Writer.writeAt]

variable {holds : World σ → Memory.Store → Prop} {I : IdSupply → Memory.Store → Prop}

/-- Keys are only ever drawn. -/
theorem step_extends (hb : Faithful b holds) (s : Session σ) (e : Event) :
    (s.step b settings e).2.world.host.ids.Extends s.world.host.ids :=
  step_world (J := fun w => w.host.ids.Extends s.world.host.ids)
    (fun _ ctx w c _ _ hw => (hb.settle_extends ctx w c).trans hw) (.refl _) e

theorem Run.extends_start (hb : Faithful b holds) (h : Run b settings start log s) :
    s.world.host.ids.Extends start.world.host.ids := by
  induction h with
  | start => exact .refl _
  | step _ e ih => exact (step_extends hb _ e).trans ih

/-- What gateways keep of the store that is held, a step keeps. -/
theorem step_keeps (hb : Faithful b holds) (hkeeps : Memory.Keeps (Given settings) I)
    (h : ∃ m, holds s.world m ∧ I s.world.host.ids m) (e : Event)
    (hd : (s.step b settings e).2.world.host.ids.Distinct) :
    ∃ m, holds (s.step b settings e).2.world m ∧ I (s.step b settings e).2.world.host.ids m := by
  refine step_world (J := fun w => w.host.ids.Distinct → ∃ m, holds w m ∧ I w.host.ids m) ?_
    (fun _ => h) e hd
  intro g ctx w c hsettings hgives hheld hd
  exact hb.settle_keeps hkeeps (hheld (hd.of_extends (hb.settle_extends ctx w c))) ctx
    ⟨g, hsettings, hgives⟩ hd

theorem Run.keeps (hb : Faithful b holds) (hkeeps : Memory.Keeps (Given settings) I)
    (h : Run b settings start log s) (hstart : ∃ m, holds start.world m ∧ I start.world.host.ids m)
    (hd : s.world.host.ids.Distinct) : ∃ m, holds s.world m ∧ I s.world.host.ids m := by
  induction h with
  | start => exact hstart
  | step _ e ih => exact step_keeps hb hkeeps (ih (hd.of_extends (step_extends hb _ e))) e hd

/-- A store is held all along. -/
theorem Run.held (hb : Faithful b holds) (h : Run b settings start log s)
    (hstart : ∃ m, holds start.world m) (hd : s.world.host.ids.Distinct) :
    ∃ m, holds s.world m := by
  have hkeeps : Memory.Keeps (Given settings) fun _ _ => True :=
    ⟨fun _ _ => trivial, fun _ _ _ _ => trivial⟩
  obtain ⟨m₀, hm₀⟩ := hstart
  obtain ⟨m, hm, -⟩ := h.keeps hb hkeeps ⟨m₀, hm₀, trivial⟩ hd
  exact ⟨m, hm⟩

end Session
end ObjectGateway
