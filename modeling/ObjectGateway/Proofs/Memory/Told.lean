import ObjectGateway.Proofs.Backend.Disturbed
/-!
# What a store in memory has been told

A store that has been stalled answers no call. One that has been told to fail for the heads of
some objects finds out everything else as if it had not. No call changes what it has been told.
-/
namespace ObjectGateway.Memory

variable {α : Type} {w : World Store} {c : Command}

/-- The stores have been told the same. -/
structure Store.ToldAs (s left : Store) : Prop where
  stalled : left.stalled = s.stalled
  failingHeads : left.failingHeads = s.failingHeads

theorem serve_told (w : World Store) (c : Command) : w.store.ToldAs (serve w c).after.store := by
  have hserved := served w c
  generalize (serve w c).after = left at hserved
  cases hserved with
  | _ => exact ⟨rfl, rfl⟩

theorem settle_told (ctx : Context) (w : World Store) (c : Command) :
    w.store.ToldAs (ctx.settle w (backend.call c w)).2.store := by
  have hafter : w.store.ToldAs (backend.call c w).after.store := by
    simp only [backend, call]
    split
    · exact ⟨rfl, rfl⟩
    · obtain ⟨hstalled, hheads⟩ := serve_told (counted w) c
      exact ⟨hstalled, hheads⟩
  have houtcome := ctx.settle_outcome w (backend.call c w)
  generalize ctx.settle w (backend.call c w) = r at houtcome
  cases houtcome with
  | answered => exact hafter
  | unmade => exact ⟨rfl, rfl⟩
  | gaveUp hwait =>
    rw [firstWait_counted hwait]
    exact ⟨rfl, rfl⟩
  | unanswered => exact hafter

/-! ## Stalled stores -/

/-- No call is carried out, so any store can be read off. -/
theorem stalled_atomic : Atomic backend fun w _ => w.store.stalled = true where
  settle {w m} ctx c h _ := by
    have hcall : backend.call c w = waiting (counted w) := by simp [backend, call, counted, h]
    have houtcome := ctx.settle_outcome w (backend.call c w)
    rw [hcall] at houtcome ⊢
    generalize ctx.settle w (waiting (counted w)) = r at houtcome
    cases houtcome with
    | answered hanswer => cases hanswer
    | unmade => exact .inr ⟨⟨_, rfl⟩, h⟩
    | gaveUp hwait =>
      cases hwait
      exact .inr ⟨⟨_, rfl⟩, h⟩
    | unanswered => exact .inr ⟨⟨_, rfl⟩, h⟩
  extends_settle := faithful.settle_extends

/-! ## Heads that fail -/

def healedWorld (w : World Store) : World Store :=
  ⟨w.host, w.store.healed⟩

/-- A look finds the same in a store that has been told nothing. -/
theorem serve_looking (w : World Store) (hlooks : c.isMutating = false)
    (hanswers : w.store.Answers c) :
    ∃ r, serve w c = looked w r ∧ serve (healedWorld w) c = looked (healedWorld w) r := by
  cases c with
  | headObject bucket id =>
    have hhead : w.store.failingHeads.contains id = false := by
      simpa using hanswers bucket id rfl
    refine ⟨w.store.head bucket id, rfl, ?_⟩
    simp only [serve, Store.head, hhead]
    rfl
  | putObject | deleteObject | putBucket | deleteBucket => cases hlooks
  | _ => exact ⟨_, rfl, rfl⟩

/-- What a program that only looks finds out in a store that is not stalled does not depend on
what the store has been told, as long as it looks for none of the heads that fail. -/
theorem run_healed {A : Command → Prop} {P : α → Prop} {p : Program α} (hp : p.Confined A P)
    (hlooks : ∀ c, A c → c.isMutating = false ∧ w.store.Answers c)
    (hawake : w.store.stalled = false) (ctx : Context) :
    (ctx.run backend p w).1 = (ctx.run backend p (healedWorld w)).1 := by
  -- The calls that are counted leave another world to the rest of the program.
  induction p generalizing w with
  | done a => rfl
  | call c next ih =>
    obtain ⟨hlooking, hanswers⟩ := hlooks c hp.1
    obtain ⟨r, hserve, hhealed⟩ := serve_looking (counted w) hlooking hanswers
    have hcall : backend.call c w = looked (counted w) r := by
      rw [← hserve]
      simp [backend, call, counted, hawake]
    have hcall' : backend.call c (healedWorld w) = looked (healedWorld (counted w)) r := by
      rw [← hhealed]
      rfl
    have hstep : ∀ v : World Store, ctx.run backend (.call c next) v =
        ctx.run backend (next (ctx.settle v (backend.call c v)).1)
          (ctx.settle v (backend.call c v)).2 := fun _ => rfl
    have hsettle : ∀ {v v' : World Store}, ctx.settle v (looked v' r) =
        if ctx.interruption = .already then (.error .cancelled, v) else (r, v') := by
      intro v v'
      cases hinterruption : ctx.interruption with
      | already => simp [Context.settle, hinterruption]
      | whileWaiting => simp [Context.settle, hinterruption, looked, answered, Context.await]
      | never =>
        cases hzero : ctx.limit.isZero <;>
          simp [Context.settle, hinterruption, hzero, looked, answered, Context.await]
    rw [hstep, hstep, hcall, hcall', hsettle, hsettle]
    split
    · exact ih _ (hp.2 _) hlooks hawake
    · exact ih _ (w := counted w) (hp.2 _) hlooks hawake
  | host a next ih =>
    cases a with
    | openUnnamed dir => exact ih _ (hp _) hlooks hawake
    | _ => exact hp.elim

end ObjectGateway.Memory
