import ObjectGateway.Proofs.Backend.Disturbed
/-!
# Histories

The calls that have been made of a backend, and what each of them came to, lead from one
world to another. The store that is held can be followed along such a history: either a call
succeeds as it does in memory, or it fails and changes nothing.
-/
namespace ObjectGateway

variable {σ : Type}

/-- A call that was made, and what whoever made it was told. -/
structure Deed where
  command : Command
  outcome : Except BackendError command.Answer

/-- A history that leads from the world `start` to another one. Each call may be made on
behalf of any request, so it may also be given up while it waits, as one that would wait for
ever always is. -/
inductive Backend.Run (b : Backend (World σ)) (start : World σ) : List Deed → World σ → Prop
  | start : b.Run start [] start
  | call {log : List Deed} {w : World σ} (h : b.Run start log w) (ctx : Context) (c : Command) :
      b.Run start (log ++ [⟨c, (ctx.settle w (b.call c w)).1⟩]) (ctx.settle w (b.call c w)).2

/-- A property of a store and of the history behind it: a call that fails keeps it, and so
does a call that succeeds. -/
structure Memory.Recounts (I : List Deed → IdSupply → Memory.Store → Prop) : Prop where
  failed : ∀ {log ids ids' m} (c : Command) (cause : BackendError), ids'.Extends ids →
    I log ids m → I (log ++ [⟨c, .error cause⟩]) ids' m
  done : ∀ {log} {w : World Memory.Store} {c : Command} {a : c.Answer} {left : World Memory.Store},
    Memory.Done w c a left → w.store.Sound w.host.ids → left.host.ids.Distinct →
    I log w.host.ids w.store → I (log ++ [⟨c, .ok a⟩]) left.host.ids left.store

variable {b : Backend (World σ)} {holds : World σ → Memory.Store → Prop}
  {start w w' : World σ} {log later : List Deed}

theorem Backend.Run.trans (h : b.Run start log w) (h' : b.Run w later w') :
    b.Run start (log ++ later) w' := by
  induction h' with
  | start => simpa using h
  | call _ ctx c ih => simpa using ih.call ctx c

/-- One call more, when it is known what it comes to. -/
theorem Backend.Run.settled (h : b.Run start log w) {ctx : Context} {c : Command}
    {outcome : Except BackendError c.Answer} (hsettle : ctx.settle w (b.call c w) = (outcome, w')) :
    b.Run start (log ++ [⟨c, outcome⟩]) w' := by
  have hcall := h.call ctx c
  rwa [hsettle] at hcall

/-- The history of some calls, each seen to its end, and the world it leads to. -/
def Backend.after (b : Backend (World σ)) (start : World σ) (commands : List Command) :
    List Deed × World σ :=
  commands.foldl (fun (log, w) c =>
    let r := Context.settle {} w (b.call c w)
    (log ++ [⟨c, r.1⟩], r.2)) ([], start)

theorem Backend.run_after (b : Backend (World σ)) (start : World σ) (commands : List Command) :
    b.Run start (b.after start commands).1 (b.after start commands).2 := by
  -- The history grows at its end, so the calls are made behind any history so far.
  have hfold : ∀ (commands : List Command) (log : List Deed) (w : World σ), b.Run start log w →
      let r := commands.foldl (fun (log, w) c =>
        let r := Context.settle {} w (b.call c w)
        (log ++ [⟨c, r.1⟩], r.2)) (log, w)
      b.Run start r.1 r.2 := by
    intro commands
    induction commands with
    | nil => exact fun _ _ h => h
    | cons c rest ih => exact fun _ _ h => ih _ _ (h.call {} c)
  exact hfold commands [] start .start

namespace Atomic

/-- Keys are only ever drawn. -/
theorem extends_of_run (hb : Atomic b holds) (h : b.Run start log w) :
    w.host.ids.Extends start.host.ids := by
  induction h with
  | start => exact .refl _
  | @call _ w _ ctx c ih => exact (hb.extends_settle ctx w c).trans ih

variable {I : List Deed → IdSupply → Memory.Store → Prop}

/-- One call more. -/
theorem settle_recounts (hb : Atomic b holds) (hI : Memory.Recounts I)
    (h : ∃ m, holds w m ∧ m.Sound w.host.ids ∧ I log w.host.ids m) (ctx : Context) (c : Command)
    (hd : (ctx.settle w (b.call c w)).2.host.ids.Distinct) :
    ∃ m, holds (ctx.settle w (b.call c w)).2 m ∧
      m.Sound (ctx.settle w (b.call c w)).2.host.ids ∧
      I (log ++ [⟨c, (ctx.settle w (b.call c w)).1⟩]) (ctx.settle w (b.call c w)).2.host.ids m := by
  obtain ⟨m, hm, hsound, hlog⟩ := h
  have hext := hb.extends_settle ctx w c
  have hsettled := hb.settle ctx c hm hd
  generalize ctx.settle w (b.call c w) = r at hsettled hext hd ⊢
  obtain ⟨outcome, left⟩ := r
  cases hsettled with
  | inl hserved =>
    have hanswer := hserved.answer
    have hids := hserved.ids
    cases outcome with
    | ok a =>
      rw [hids] at hd ⊢
      exact ⟨_, hserved.holds, Memory.serve_sound (w := ⟨w.host, m⟩) hsound c hd,
        hI.done (Memory.done_of_answer hanswer) hsound hd hlog⟩
    | error cause =>
      have hholds := hserved.holds
      rw [Memory.serve_error hanswer] at hholds
      exact ⟨m, hholds, hsound.of_extends hext, hI.failed c cause hext hlog⟩
  | inr hrefused =>
    obtain ⟨cause, rfl : outcome = .error cause⟩ := hrefused.failed
    exact ⟨m, hrefused.holds, hsound.of_extends hext, hI.failed c cause hext hlog⟩

/-- Such a property of a history, and of the store behind it, holds after further calls. -/
theorem run_recounts (hb : Atomic b holds) (hI : Memory.Recounts I) (log : List Deed)
    (h : b.Run w later w') (hw : ∃ m, holds w m ∧ m.Sound w.host.ids ∧ I log w.host.ids m)
    (hd : w'.host.ids.Distinct) :
    ∃ m, holds w' m ∧ m.Sound w'.host.ids ∧ I (log ++ later) w'.host.ids m := by
  -- Keys that differ at the end have differed all along.
  induction h with
  | start => simpa using hw
  | @call _ w _ ctx c ih =>
    rw [← List.append_assoc]
    exact hb.settle_recounts hI (ih (hd.of_extends (hb.extends_settle ctx w c))) ctx c hd

end Atomic

end ObjectGateway
