import ObjectGateway.Http.Routes
import ObjectGateway.Proofs.Backend.Passing
import ObjectGateway.Proofs.Gateway.Reader
import ObjectGateway.Proofs.Requests
/-!
# Requests that change nothing

What a request over HTTP can do is settled by its verb, by the method that its query names
and by whether the gateway is read-only. The rules below follow the handlers step by step.
-/
namespace ObjectGateway

-- ---------------------------------------------------------------------------
-- Handlers
-- ---------------------------------------------------------------------------

namespace Http.Handler

variable {α β : Type} {P : α → Prop} {Q : β → Prop} {p : Handler α} {k : α → Handler β}

/-- The handler only looks and spares payloads, and a value that it has is of the kind `P`. -/
def Harmless (p : Handler α) (P : α → Prop := fun _ => True) : Prop :=
  Program.Harmless p.run fun r => ∀ a, r = .ok a → P a

theorem Harmless.pure {a : α} (h : P a) : Harmless (pure a) P := by
  rintro _ ⟨⟩
  exact h

theorem Harmless.throw (answer : Response) : Harmless (throw answer : Handler α) P := by
  rintro _ ⟨⟩

theorem Harmless.badRequest (message : String) : Harmless (badRequest message) P :=
  .throw _

theorem Harmless.bind (hp : p.Harmless P) (hk : ∀ a, P a → (k a).Harmless Q) :
    Harmless (p >>= k) Q := by
  refine Program.Within.bind hp fun r hr => ?_
  cases r with
  | ok a => exact hk a (hr a rfl)
  | error answer => rintro _ ⟨⟩

/-- Nothing follows an answer that is given early. -/
theorem Harmless.throw_bind (answer : Response) :
    Harmless ((MonadExcept.throw answer : Handler α) >>= k) Q :=
  (Harmless.throw (P := fun _ => False) answer).bind fun _ h => h.elim

theorem Harmless.ofExcept (r : Except FsError α) : Harmless (ofExcept r) fun a => r = .ok a := by
  cases r with
  | ok a => exact .pure rfl
  | error e => exact .throw _

theorem Harmless.ofFs {p : FsProgram α} (hp : p.Peeks P) : Harmless (ofFs p) P := by
  refine Program.Within.bind hp.harmless fun r hr => ?_
  cases r with
  | ok a =>
    rintro _ ⟨⟩
    exact hr a rfl
  | error e => rintro _ ⟨⟩

theorem Harmless.finish {p : Handler Response} (hp : p.Harmless) : p.finish.Harmless := by
  refine Program.Within.bind hp fun r _ => ?_
  cases r <;> exact trivial

end Http.Handler

-- ---------------------------------------------------------------------------
-- Bodies and probes
-- ---------------------------------------------------------------------------

namespace Http

/-- To send a body, ranges are asked for and nothing else. -/
theorem Body.send_confined {A : Command → Prop}
    (hA : ∀ bucket id offset length, A (.getRange bucket id offset length)) (body : Body) :
    body.send.Confined A fun _ => True := by
  cases body with
  | empty | bytes => exact trivial
  | window reader offset length chunk => exact Reader.piecesFrom_confined (hA _ _) _ _ _ _

theorem Body.send_harmless (body : Body) : body.send.Harmless :=
  (body.send_confined (A := fun c => c.isMutating = false) fun _ _ _ _ => rfl).within fun _ => trivial

/-- The name of the file that a probe makes is no identifier. -/
theorem probeName_ne (id id' : ObjectId) : ".readyz-" ++ id.text ≠ id'.text :=
  Id.marked_ne_text (by decide) id id'

theorem probeName_isName (id : ObjectId) : IsName (".readyz-" ++ id.text) :=
  Id.isName_marked (by decide) id

theorem probe_peeks (g : Gateway) : g.probe.Peeks :=
  (FsProgram.Peeks.call rfl).bind fun _ _ => .pure trivial

/-- The only file that a probe writes and removes is one of its own. -/
theorem checkStaging_harmless (g : Gateway) : (checkStaging g).Harmless := by
  refine ⟨trivial, fun id => ⟨⟨probeName_isName id, probeName_ne id⟩, fun written => ?_⟩⟩
  cases written with
  | error cause => exact trivial
  | ok =>
    exact ⟨trivial, fun read => ⟨⟨probeName_isName id, probeName_ne id⟩, fun removed => trivial⟩⟩

theorem readyz_harmless (g : Gateway) : (readyz g).Harmless := by
  have hbackend : (checkBackend g).Harmless := by
    refine Program.Within.bind (probe_peeks g).harmless fun r _ => ?_
    cases r <;> exact trivial
  exact hbackend.bind fun _ _ => (checkStaging_harmless g).bind fun _ _ => trivial

-- ---------------------------------------------------------------------------
-- Verbs
-- ---------------------------------------------------------------------------

variable {g : Gateway}

theorem routePath_harmless (raw : List Char) : (routePath raw).Harmless := by
  unfold routePath
  split
  · exact .pure trivial
  · exact .throw _

theorem routeQuery_harmless (query : List Char) :
    (routeQuery query).Harmless fun q => Query.parse query = .ok q := by
  unfold routeQuery
  cases Query.parse query with
  | ok q => exact .pure rfl
  | error e => exact .throw _

/-- Nothing is stored when no writer was opened. -/
theorem respond_harmless (g : Gateway) (method : Method) (q : Query)
    {outcome : ObjectGateway.Response} (h : ∀ w, outcome ≠ .writer w) :
    (respond g method q outcome).Harmless := by
  cases outcome with
  | entries items =>
    unfold respond
    dsimp only
    split
    · split
      · exact .pure trivial
      · exact .throw _
    · exact .pure trivial
  | reader r => exact .pure trivial
  | writer w => exact absurd rfl (h w)
  | done => exact .pure trivial

/-- A method is carried out without harm when it does not mutate, or when the gateway
refuses that. -/
theorem carry_harmless {method : String} (path : String) (target : Option String) (q : Query)
    (h : ∀ m, Method.ofName? method = some m → m.isMutating = true → g.settings.readOnly = true) :
    (carry g method path target q).Harmless :=
  (Handler.Harmless.ofExcept _).bind fun request hrequest =>
    (Handler.Harmless.ofFs (g.dispatch_peeks (h _ (Request.method_of_ofWire hrequest)))).bind
      fun _ houtcome => respond_harmless g request.method q houtcome

/-- GET carries methods that do not mutate. -/
theorem getMethod_harmless (q : Query) :
    (getMethod q).Harmless fun m => m.isMutating = false := by
  unfold getMethod
  split
  · exact .pure rfl
  · exact .pure rfl
  · exact .pure rfl
  · exact .badRequest _

theorem getPath_harmless (g : Gateway) (path : String) (q : Query) :
    (getPath g path q).Harmless := by
  refine (getMethod_harmless q).bind fun method hmethod => carry_harmless path none q ?_
  intro m hm hmutating
  rw [Method.ofName?_name, Option.some.injEq] at hm
  rw [hm, hmutating] at hmethod
  cases hmethod

theorem postPath_harmless (hreadOnly : g.settings.readOnly = true) (path : String) (q : Query) :
    (postPath g path q).Harmless := by
  unfold postPath
  split
  · exact .badRequest _
  · exact carry_harmless path q.target q fun _ _ _ => hreadOnly

theorem putPath_harmless (hreadOnly : g.settings.readOnly = true) (path : String)
    (body : List (Except String Bytes)) : (putPath g path body).Harmless := by
  refine (Handler.Harmless.ofExcept _).bind fun request _ =>
    (Handler.Harmless.ofFs (g.dispatch_peeks fun _ => hreadOnly)).bind fun outcome houtcome => ?_
  cases outcome with
  | writer w => exact absurd rfl (houtcome w)
  | _ => exact .throw _

/-- The method that a DELETE asks for with its query, which is Remove when it names none. -/
def deleteMethod? (query : List Char) : Option Method :=
  match Query.parse query with
  | .ok q => Method.ofName? (q.op.getD Method.remove.name)
  | .error _ => none

theorem deletePath_harmless (path : String) {q : Query}
    (h : g.settings.readOnly = true ∨ ∀ m, Method.ofName? (q.op.getD Method.remove.name) = some m →
      m ≠ .remove ∧ m ≠ .rmdir) : (deletePath g path q).Harmless := by
  refine (Handler.Harmless.ofExcept _).bind fun request hrequest => ?_
  split
  · exact .throw_bind _
  · rename_i hkind
    have hreadOnly : g.settings.readOnly = true := by
      refine h.resolve_right fun hother => ?_
      exact hkind (hother _ (Request.method_of_ofWire hrequest))
    exact (Handler.Harmless.ofFs (g.dispatch_peeks fun _ => hreadOnly)).bind
      fun _ houtcome => respond_harmless g .remove q houtcome

-- ---------------------------------------------------------------------------
-- Requests
-- ---------------------------------------------------------------------------

/-- A verb that changes nothing: GET, and a DELETE that asks for neither Remove nor Rmdir. On a
read-only gateway that is any verb. -/
def Spares (g : Gateway) (verb : String) (query : List Char) : Prop :=
  g.settings.readOnly = true ∨ verb = "GET" ∨
    verb = "DELETE" ∧ ∀ m, deleteMethod? query = some m → m ≠ .remove ∧ m ≠ .rmdir

theorem serve_harmless {verb : String} {query : List Char} (h : Spares g verb query)
    (route : Route) (body : List (Except String Bytes)) :
    (serve g route verb query body).Harmless := by
  have hreadOnly : verb ≠ "GET" → verb ≠ "DELETE" → g.settings.readOnly = true :=
    fun hget hdelete => (h.resolve_right fun hsafe =>
      hsafe.elim hget fun hand => hdelete hand.1)
  cases route with
  | healthz => exact trivial
  | readyz => exact readyz_harmless g
  | root =>
    refine ((routeQuery_harmless query).bind fun q _ => ?_).finish
    split
    · rename_i hverb
      exact postPath_harmless (hreadOnly (by simp [hverb]) (by simp [hverb])) "/" q
    · exact getPath_harmless g "/" q
  | entry raw =>
    refine ((routePath_harmless raw).bind fun path _ => ?_).finish
    split
    · rename_i hverb
      exact putPath_harmless (hreadOnly (by simp [hverb]) (by simp [hverb])) path body
    · refine (routeQuery_harmless query).bind fun q hq => ?_
      split
      · rename_i hverb
        refine deletePath_harmless path (h.imp_right fun hsafe m hm => ?_)
        refine (hsafe.resolve_left (by simp [hverb])).2 m ?_
        rw [deleteMethod?, hq]
        exact hm
      · split
        · rename_i hverb
          exact postPath_harmless (hreadOnly (by simp [hverb]) (by simp [hverb])) path q
        · exact getPath_harmless g path q

namespace Request

/-- A request that is safe on any gateway: GET and HEAD, and a DELETE that asks for neither
Remove nor Rmdir. -/
def Safe (r : Request) : Prop :=
  r.method = "GET" ∨ r.method = "HEAD" ∨
    r.method = "DELETE" ∧ ∀ path query, r.target = .resource path query →
      ∀ m, deleteMethod? query = some m → m ≠ .remove ∧ m ≠ .rmdir

end Request

theorem handle_harmless (g : Gateway) {r : Request} (h : g.settings.readOnly = true ∨ r.Safe) :
    (handle g r).Harmless := by
  unfold handle
  cases htarget : r.target with
  | resource path query =>
    unfold answerResource
    dsimp only
    split
    · exact trivial
    · split
      · split
        · exact (serve_harmless (.inr (.inl rfl)) _ r.body).bind fun _ _ => trivial
        · rename_i hhead
          refine serve_harmless (h.imp_right fun hsafe => ?_) _ r.body
          obtain hget | hhead' | ⟨hdelete, hquery⟩ := hsafe
          · exact .inl hget
          · exact absurd hhead' hhead
          · exact .inr ⟨hdelete, hquery path query htarget⟩
      · exact trivial
  | authority host | server => exact trivial

theorem exchange_harmless (g : Gateway) {r : Request}
    (h : g.settings.readOnly = true ∨ r.Safe) : (exchange g r).Harmless :=
  (handle_harmless g h).bind fun answer _ => answer.body.send_harmless.bind fun _ _ => trivial

/-- The worlds that a server goes through while it answers requests of the kind `A`, one
after the other. A client may go away in the middle of any exchange, which is then cut off. -/
inductive Serves {σ : Type} (b : Backend (World σ)) (settings : Settings) (A : Request → Prop)
    (start : World σ) : World σ → Prop
  | start : Serves b settings A start start
  | next {w left : World σ} (h : Serves b settings A start w) (ctx : Context) (now : Int)
      {r : Request} (hr : A r)
      (hpasses : (exchange ⟨settings, b.maxChunk w, now⟩ r).Passes (ctx.interpreter b) w left) :
      Serves b settings A start left

/-- An exchange that is not cut off. -/
theorem Serves.answered {σ : Type} {b : Backend (World σ)} {settings : Settings}
    {A : Request → Prop} {start w : World σ} (h : Serves b settings A start w) (ctx : Context)
    (now : Int) {r : Request} (hr : A r) :
    Serves b settings A start (ctx.run b (exchange ⟨settings, b.maxChunk w, now⟩ r) w).2 :=
  h.next ctx now hr (Program.passes_run _ _ w)

open Config (BackendKind)

theorem Serves.sameContents {k : BackendKind} {settings : Settings} {A : Request → Prop}
    {start w : World k.Store} (h : Serves k.backend settings A start w)
    (hA : ∀ r, A r → settings.readOnly = true ∨ r.Safe) : k.SameContents start w := by
  induction h with
  | start => exact .refl k start
  | next _ ctx now hr hpasses ih =>
    exact ih.trans ((exchange_harmless _ (hA _ hr)).sameContents hpasses)

/-- A read-only gateway never changes what is stored, whatever it is asked for: the methods
that would are refused before any call is made. No gateway changes it for safe requests. -/
theorem contents_unchanged (k : BackendKind) (settings : Settings) (start : World k.Store) :
    (settings.readOnly = true →
      (∀ w, Serves k.backend settings (fun _ => True) start w → k.SameContents start w) ∧
      ∀ (maxChunk : Nat) (now : Int) (path : FsPath) (r : ObjectGateway.Request),
        r ∈ [.put path, .openFile path, .mkdir path, .remove path, .rmdir path] →
          ((Gateway.mk settings maxChunk now).dispatch r).run =
            .done (.error (.permissionDenied path.text))) ∧
    ∀ w, Serves k.backend settings Request.Safe start w → k.SameContents start w := by
  refine ⟨fun hreadOnly => ⟨fun w h => h.sameContents fun _ _ => .inl hreadOnly, ?_⟩,
    fun w h => h.sameContents fun _ hsafe => .inr hsafe⟩
  intro maxChunk now path r hr
  simp only [List.mem_cons, List.not_mem_nil, or_false] at hr
  obtain rfl | rfl | rfl | rfl | rfl := hr <;> exact Gateway.dispatch_refused hreadOnly rfl

/-- A bucket in memory that a read-only gateway is told to remove, and that another gateway
is told to make by a DELETE after it has listed it. -/
theorem contents_unchanged_bucket :
    let k := BackendKind.memory
    let refusing : Settings := { readOnly := true }
    let path := "/fs/00000000-0000-0000-0000-000000000000".toList
    let get : Request := ⟨"GET", .resource path "op=list".toList, []⟩
    let make : Request := ⟨"DELETE", .resource path "op=mkDIR".toList, []⟩
    let remove : Request := ⟨"DELETE", .resource path [], []⟩
    let start : World Memory.Store := ⟨{ ids := ⟨BitVec.ofNat 128, 0⟩ },
      { buckets := [{ info := ⟨⟨0⟩, Id.nil, defaultPolicy, .restricted, {}⟩ }] }⟩
    let after (settings : Settings) (r : Request) (w : World Memory.Store) :=
      (Context.run {} k.backend (exchange ⟨settings, k.backend.maxChunk w, 0⟩ r) w).2
    let refused := after refusing remove start
    let made := after {} make (after {} get start)
    refusing.readOnly = true ∧ Serves k.backend refusing (fun _ => True) start refused ∧
      k.SameContents start refused ∧
      ((Gateway.mk refusing defaultMaxChunk 0).dispatch (.rmdir (.bucket "b"))).run =
        .done (.error (.permissionDenied "/b")) ∧
      get.Safe ∧ make.Safe ∧ ¬remove.Safe ∧ Serves k.backend {} Request.Safe start made ∧
      k.SameContents start made := by
  intro k refusing path get make remove start after refused made
  have hget : get.Safe := .inl rfl
  have hmake : make.Safe := by
    refine .inr (.inr ⟨rfl, ?_⟩)
    have hasks : deleteMethod? "op=mkDIR".toList = some .mkdir := by decide +kernel
    rintro _ _ ⟨⟩ m hm
    rw [hasks, Option.some.injEq] at hm
    subst hm
    decide
  have hremove : ¬remove.Safe := by
    rintro (hget | hhead | ⟨-, hquery⟩)
    · exact absurd hget (by decide)
    · exact absurd hhead (by decide)
    · exact (hquery path [] rfl .remove rfl).1 rfl
  have hrefused : Serves k.backend refusing (fun _ => True) start refused :=
    Serves.start.answered {} 0 trivial
  have hmade : Serves k.backend {} Request.Safe start made :=
    (Serves.start.answered {} 0 hget).answered {} 0 hmake
  obtain ⟨hreadOnly, -⟩ := contents_unchanged k refusing start
  obtain ⟨hsame, hdispatch⟩ := hreadOnly rfl
  exact ⟨rfl, hrefused, hsame _ hrefused, hdispatch _ _ (.bucket "b") _ (by simp), hget, hmake,
    hremove, hmade, (contents_unchanged k {} start).2 _ hmade⟩

end Http
end ObjectGateway
