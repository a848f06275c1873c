import ObjectGateway.Http.Routes
import ObjectGateway.Proofs.Backend.Disturbed
/-!
# What handlers bring about

A handler goes on with a value or ends early with an answer. The rules say what it leaves of
the store in either case, whatever becomes of its request.
-/
namespace ObjectGateway

open Memory (Store)

variable {σ α β : Type} {b : Backend (World σ)} {holds : World σ → Store → Prop} {m : Store}

-- ---------------------------------------------------------------------------
-- What is brought about
-- ---------------------------------------------------------------------------

namespace Program

/-- From a world that holds `m` the program leads to a world whose store is, together with
the result, as `Q` says, whatever becomes of the request. -/
def Brings (b : Backend (World σ)) (holds : World σ → Store → Prop) (m : Store) (p : Program α)
    (Q : α → Store → Prop) : Prop :=
  ∀ ⦃w : World σ⦄ ⦃ctx : Context⦄, holds w m → (ctx.run b p w).2.host.ids.Distinct →
    ∃ left, holds (ctx.run b p w).2 left ∧ Q (ctx.run b p w).1 left

variable {p : Program α} {k : α → Program β} {Q Q' : α → Store → Prop} {R : β → Store → Prop}

theorem Brings.done {a : α} (h : Q a m) : Brings b holds m (.done a) Q :=
  fun _ _ hm _ => ⟨m, hm, h⟩

theorem Brings.imp (hp : Brings b holds m p Q) (himp : ∀ a left, Q a left → Q' a left) :
    Brings b holds m p Q' := by
  intro w ctx hm hd
  obtain ⟨left, hheld, hQ⟩ := hp hm hd
  exact ⟨left, hheld, himp _ _ hQ⟩

theorem Brings.bind (hb : Atomic b holds) (hp : Brings b holds m p Q)
    (hk : ∀ a left, Q a left → Brings b holds left (k a) R) : Brings b holds m (p.bind k) R := by
  intro w ctx hm hd
  have hrun : ctx.run b (p.bind k) w = ctx.run b (k (ctx.run b p w).1) (ctx.run b p w).2 :=
    run_bind _ p k w
  rw [hrun] at hd ⊢
  -- The keys at the end differ, so those before the second part do, too.
  have hextends := runUnder_extends hb ctx (fun _ => none) (k (ctx.run b p w).1) (ctx.run b p w).2
  rw [ctx.runUnder_none] at hextends
  obtain ⟨left, hheld, hQ⟩ := hp hm (hd.of_extends hextends)
  exact hk _ left hQ hheld hd

theorem Ends.brings (hb : Atomic b holds) (hp : p.Ends Q m) : Brings b holds m p Q := by
  intro w ctx hm hd
  have hends := Ends.runUnder hb hp hm ctx (fun _ => none)
  rw [ctx.runUnder_none] at hends
  exact hends hd

/-- What only looks leaves the store as it is, and has a result of its kind. -/
theorem Confined.ends {P : α → Prop} (hp : p.Confined (fun c => c.isMutating = false) P) :
    p.Ends (fun a left => left = m ∧ P a) m := by
  induction p with
  | done a => exact ⟨rfl, hp⟩
  | call c next ih =>
    refine ⟨fun host answer _ => ?_, fun cause => ih _ (hp.2 _)⟩
    have hafter : (Memory.serve ⟨host, m⟩ c).after.store = m := by
      cases c with
      | putObject | deleteObject | putBucket | deleteBucket => cases hp.1
      | _ => rfl
    rw [hafter]
    exact ih answer (hp.2 answer)
  | host a next ih =>
    cases a with
    | openUnnamed dir => exact fun answer => ih answer (hp answer)
    | _ => exact hp.elim

/-- What a program ends with is also of the kind that its results always are. -/
theorem Ends.confined {A : Command → Prop} {P : α → Prop} (hp : p.Ends Q m)
    (hc : p.Confined A P) : p.Ends (fun a left => Q a left ∧ P a) m := by
  induction p generalizing m with
  | done a => exact ⟨hp, hc⟩
  | call c next ih =>
    exact ⟨fun host answer hanswer => ih answer (hp.1 host answer hanswer) (hc.2 answer),
      fun cause => ih _ (hp.2 cause) (hc.2 _)⟩
  | host a next ih =>
    cases a with
    | openUnnamed dir => exact fun answer => ih answer (hp answer) (hc answer)
    | _ => exact hp.elim

end Program

theorem FsProgram.AllOrNothing.confined {A : Command → Prop} {P : α → Prop} {p : FsProgram α}
    {Q : α → Store → Prop} (hp : p.AllOrNothing m Q) (hc : Confined A P p) :
    p.AllOrNothing m fun a left => Q a left ∧ P a := by
  refine Program.Ends.imp (Program.Ends.confined hp hc) ?_
  rintro r left ⟨⟨hfails, hdoes⟩, hkind⟩
  exact ⟨hfails, fun a ha => ⟨hdoes a ha, hkind a ha⟩⟩

namespace Http.Handler

variable {C : Store → Prop} {p : Handler α} {k : α → Handler β} {Q : α → Store → Prop}
  {R : β → Store → Prop}

/-- A value that the handler goes on with is, together with the store, as `Q` says; after an
early answer the store is as `C` says. -/
def Brings (b : Backend (World σ)) (holds : World σ → Store → Prop) (C : Store → Prop) (m : Store)
    (p : Handler α) (Q : α → Store → Prop) : Prop :=
  Program.Brings b holds m p.run fun r left =>
    match r with
    | .ok a => Q a left
    | .error _ => C left

theorem Brings.pure {a : α} (h : Q a m) : Brings b holds C m (pure a) Q :=
  Program.Brings.done h

theorem Brings.throw (h : C m) (answer : Response) : Brings b holds C m (throw answer) Q :=
  Program.Brings.done h

theorem Brings.bind (hb : Atomic b holds) (hp : Brings b holds C m p Q)
    (hk : ∀ a left, Q a left → Brings b holds C left (k a) R) :
    Brings b holds C m (p >>= k) R := by
  refine Program.Brings.bind hb hp fun r left hr => ?_
  cases r with
  | ok a => exact hk a left hr
  | error answer => exact Program.Brings.done hr

theorem Brings.ofExcept (h : C m) (r : Except FsError α) :
    Brings b holds C m (ofExcept r) fun a left => left = m ∧ r = .ok a := by
  cases r with
  | ok a => exact .pure ⟨rfl, rfl⟩
  | error e => exact .throw h _

theorem Brings.ofFs (hb : Atomic b holds) {p : FsProgram α} (hp : p.AllOrNothing m Q)
    (h : C m) : Brings b holds C m (ofFs p) Q := by
  refine Program.Ends.brings hb (Program.Ends.bind hp fun r left hr => ?_)
  cases r with
  | ok a => exact hr.2 a rfl
  | error e =>
    obtain rfl := hr.1 e rfl
    exact h

theorem ofExcept_bind (a : α) (k : α → Handler β) : ofExcept (.ok a) >>= k = k a :=
  rfl

/-- Go on with the result of a filesystem operation, or answer its failure. -/
def orFailure (k : α → Program Response) : Except FsError α → Program Response
  | .ok a => k a
  | .error e => .done (.ofFailure (.ofFsError e))

/-- A handler that begins with a filesystem operation answers its failure. -/
theorem finish_ofFs_bind (p : FsProgram α) (k : α → Handler Response) :
    finish (ofFs p >>= k) = p.run.bind (orFailure fun a => (k a).finish) := by
  change Program.bind (Program.bind (Program.bind p.run _) (ExceptT.bindCont k)) _ = _
  rw [Program.bind_assoc, Program.bind_assoc]
  refine congrArg p.run.bind (funext fun r => ?_)
  cases r <;> rfl

theorem brings_orFailure (hb : Atomic b holds) {p : FsProgram α} {k : α → Program Response}
    {R : Response → Store → Prop} (hp : p.AllOrNothing m Q)
    (hfails : ∀ e, R (.ofFailure (.ofFsError e)) m)
    (hk : ∀ a left, Q a left → Program.Brings b holds left (k a) R) :
    Program.Brings b holds m (p.run.bind (orFailure k)) R := by
  refine Program.Brings.bind hb (Program.Ends.brings hb hp) fun r left hr => ?_
  cases r with
  | ok a => exact hk a left (hr.2 a rfl)
  | error e =>
    obtain rfl := hr.1 e rfl
    exact .done (hfails e)

theorem Brings.finish (hb : Atomic b holds) {p : Handler Response}
    (hp : Brings b holds C m p fun _ => C) : Program.Brings b holds m p.finish fun _ => C := by
  refine Program.Brings.bind hb hp fun r left hr => ?_
  cases r <;> exact Program.Brings.done hr

end Http.Handler

-- ---------------------------------------------------------------------------
-- Requests for an entry
-- ---------------------------------------------------------------------------

namespace Http

/-- A request of this verb for the entry at a path. -/
structure Request.At (r : Request) (verb text : String) (query : List Char) : Prop where
  verb : r.method = verb
  target : ∃ path raw, r.target = .resource path query ∧
    Route.ofPath? path = some (.entry raw) ∧ Percent.text? raw = some text

variable {r : Request} {text : String} {query : List Char} {q : Query}

theorem handle_put (g : Gateway) (h : r.At "PUT" text query) :
    handle g r = (putPath g ("/" ++ text) r.body).finish := by
  obtain ⟨verb, path, raw, target, entry, readable⟩ := h
  simp [handle, target, answerResource, entry, verb, serve, routePath, readable, Route.allowed]

theorem handle_post (g : Gateway) (h : r.At "POST" text query) (hq : Query.parse query = .ok q) :
    handle g r = (postPath g ("/" ++ text) q).finish := by
  obtain ⟨verb, path, raw, target, entry, readable⟩ := h
  simp [handle, target, answerResource, entry, verb, serve, routePath, readable, routeQuery, hq,
    Route.allowed]

theorem handle_get (g : Gateway) (h : r.At "GET" text query) (hq : Query.parse query = .ok q) :
    handle g r = (getPath g ("/" ++ text) q).finish := by
  obtain ⟨verb, path, raw, target, entry, readable⟩ := h
  simp [handle, target, answerResource, entry, verb, serve, routePath, readable, routeQuery, hq,
    Route.allowed]

end Http
end ObjectGateway
