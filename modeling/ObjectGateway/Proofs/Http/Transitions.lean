import ObjectGateway.Proofs.Gateway.Transitions
import ObjectGateway.Proofs.Http.Handlers
import ObjectGateway.Proofs.Http.Harmless
/-!
# What an exchange changes

An exchange over HTTP carries out one request of the file protocol at most. When this hands
out a writer, the exchange closes it, too, unless the body breaks off before. A probe leaves
the store as it is, for the file that it makes is removed again.
-/
namespace ObjectGateway

open Memory (Store)
open Config (BackendKind)

-- ---------------------------------------------------------------------------
-- Probes
-- ---------------------------------------------------------------------------

namespace Durable

variable {base : Location} {t t' : FileTree} {m : Memory.Store}

/-- What is filed depends on what stands at the base directory, above and below. -/
theorem Filed.of_view (h : Filed base t m)
    (hbelow : ∀ k, t'.find? (base ++ k) = t.find? (base ++ k))
    (habove : ∀ l, l <+: base → t'.find? l = t.find? l) : Filed base t' m where
  layered :=
    { above := fun hl => (habove _ hl).trans (h.layered.above hl)
      parent := fun {k name} hne => by
        rw [hbelow] at hne ⊢
        exact h.layered.parent hne
      dirs := fun {k} hdir => h.layered.dirs (by rwa [hbelow] at hdir)
      files := fun {k data} hfile => h.layered.files (by rwa [hbelow] at hfile) }
  roots bucket hbucket := by
    rw [bucketRoot, hbelow]
    exact h.roots bucket hbucket
  payloads bucket o ho := by
    have hpayload := h.payloads bucket o ho
    rw [payloadFile_eq] at hpayload ⊢
    rwa [hbelow]
  owned k data hfile := h.owned k data (by rwa [hbelow] at hfile)

/-- A file of a name that is no identifier, which is written and removed again, is none of
those that are filed. -/
theorem Filed.removed (h : Filed base t m) {here l : Location} {p : HostPath} {name : String}
    (hname : IsName name) (hspares : ∀ id : ObjectId, name ≠ id.text)
    (hlast : p.names.getLast? = some name) (hreach : t.reach here p = .ok l)
    (hdir : t.find? l ≠ some .dir)
    (hview : ∀ l', t'.find? l' = if l' = l then none else t.find? l') : Filed base t' m := by
  have hl := FileTree.reach_getLast? hreach hname hlast
  refine h.of_view (fun k => ?_) fun l' hl' => ?_
  · rw [hview]
    split
    · rename_i hsame
      cases hold : t.find? (base ++ k) with
      | none => rfl
      | some node =>
        cases node with
        | dir => exact absurd (hsame ▸ hold) hdir
        | file data =>
          -- Below the base directory only payloads are files, and those have other names.
          obtain ⟨bucket, o, -, hplace⟩ := h.owned k data hold
          rw [← hsame, hplace, payloadFile, List.getLast?_concat] at hl
          exact absurd (Option.some.inj hl).symm (hspares o.info.id)
    · rfl
  · rw [hview, if_neg]
    rintro rfl
    exact hdir (h.layered.above hl')

end Durable

theorem Context.run_host {σ α : Type} (ctx : Context) (b : Backend (World σ)) (a : HostAction)
    (next : a.Answer → Program α) (w : World σ) :
    ctx.run b (.host a next) w =
      ctx.run b (next (a.perform w.host).1) { w with host := (a.perform w.host).2 } :=
  rfl

namespace Http

variable {σ : Type} {b : Backend (World σ)} {holds : World σ → Store → Prop} {m : Store}

/-- A file is written, read and removed. -/
def roundTrip (dir : Option String) (name : String) : Program Check :=
  .host (.writeFile dir name Check.sample) fun
    | .error cause => .done ⟨false, some ("could not write tmp file: " ++ cause.message)⟩
    | .ok () =>
      .host (.readFile dir name) fun read =>
        .host (.removeFile dir name) fun removed => .done (Check.ofRoundTrip read removed)

theorem checkStaging_eq (g : Gateway) :
    checkStaging g = .host .draw fun id => roundTrip g.settings.stagingDir (".readyz-" ++ id.text) :=
  rfl

/-- Either the file cannot be written and the files stay as they are, or it is written and
removed again. -/
theorem run_roundTrip (ctx : Context) (b : Backend (World σ)) (dir : Option String)
    (name : String) (w : World σ) :
    (ctx.run b (roundTrip dir name) w).2 = w ∨
      ∃ l removed, w.host.files.reach w.host.workDir ((w.host.directory dir).join name) = .ok l ∧
        w.host.files.find? l ≠ some .dir ∧
        (ctx.run b (roundTrip dir name) w).2 = { w with host := { w.host with files := removed } } ∧
        ∀ l', removed.find? l' = if l' = l then none else w.host.files.find? l' := by
  rw [roundTrip, ctx.run_host]
  cases hwrite : w.host.files.writeFileAt w.host.workDir ((w.host.directory dir).join name)
      Check.sample with
  | error cause =>
    have hperform : HostAction.perform w.host (.writeFile dir name Check.sample) =
        (.error cause, w.host) := by
      rw [HostAction.perform, hwrite]
      rfl
    rw [hperform]
    exact .inl rfl
  | ok files =>
    obtain ⟨l, removed, hreach, hdir, hremove, hview⟩ := FileTree.removeFileAt_of_writeFileAt hwrite
    have hwritten : HostAction.perform w.host (.writeFile dir name Check.sample) =
        (.ok (), { w.host with files }) := by
      rw [HostAction.perform, hwrite]
      rfl
    have hremoved : HostAction.perform { w.host with files } (.removeFile dir name) =
        (.ok (), { w.host with files := removed }) := by
      have hsame : Host.directory { w.host with files } dir = w.host.directory dir := by
        cases dir <;> rfl
      rw [HostAction.perform, hsame, hremove]
      rfl
    refine .inr ⟨l, removed, hreach, hdir, ?_, hview⟩
    have hrun : ∀ (read : HostAction.Answer (.readFile dir name)),
        (ctx.run b (.host (.removeFile dir name) fun removed =>
          .done (Check.ofRoundTrip read removed)) { w with host := { w.host with files } }).2 =
          { w with host := { w.host with files := removed } } := by
      intro read
      rw [ctx.run_host, hremoved]
      rfl
    rw [hwritten]
    exact hrun _

/-- A probe of the staging directory leaves what is stored as it is. -/
theorem checkStaging_brings (k : BackendKind) (g : Gateway) :
    Program.Brings k.backend k.Holds m (checkStaging g) fun _ left => left = m := by
  intro w ctx hm _
  refine ⟨m, ?_, rfl⟩
  have hdrawn : k.Holds { w with host := (w.host.draw .object).2 } m := by
    cases k with
    | memory => exact ⟨hm.1, hm.2.of_extends (IdSupply.extends_draw w.host.ids .object)⟩
    | sqlite => exact Durable.Holds.draw hm .object
  have hname := probeName_isName (w.host.draw .object).1
  have hspares := probeName_ne (w.host.draw .object).1
  rw [checkStaging_eq, ctx.run_host]
  dsimp only [HostAction.perform]
  generalize ".readyz-" ++ (w.host.draw .object).1.text = name at hname hspares ⊢
  generalize (⟨(w.host.draw .object).2, w.store⟩ : World k.Store) = drawn at hdrawn ⊢
  obtain hsame | ⟨l, removed, hreach, hdir, hleft, hview⟩ :=
    run_roundTrip ctx k.backend g.settings.stagingDir name drawn
  · rwa [hsame]
  · rw [hleft]
    cases k with
    | memory => exact hdrawn
    | sqlite =>
      exact Durable.Holds.withFiles hdrawn (Durable.Filed.removed (Durable.Holds.filed hdrawn) hname
        hspares (HostPath.names_join _ hname) hreach hdir hview)

theorem readyz_brings (k : BackendKind) (g : Gateway) :
    Program.Brings k.backend k.Holds m (readyz g) fun _ left => left = m := by
  have hbackend : Program.Brings k.backend k.Holds m (checkBackend g) fun _ left => left = m := by
    refine Program.Brings.bind k.faithful.atomic
      (Program.Ends.brings k.faithful.atomic (Program.Confined.ends (probe_peeks g)))
      fun r left hr => ?_
    obtain ⟨rfl, -⟩ := hr
    cases r <;> exact .done rfl
  refine hbackend.bind k.faithful.atomic fun backend left hleft => ?_
  subst hleft
  refine (checkStaging_brings k g).bind k.faithful.atomic fun staging left hleft => ?_
  subst hleft
  exact .done rfl

end Http

-- ---------------------------------------------------------------------------
-- Requests
-- ---------------------------------------------------------------------------

namespace Gateway

variable {m left : Store} {request : Request} {response : Response}

/-- What a request that is carried out does: it was allowed to, it has had its effect, and if
it hands out a writer, it has changed nothing yet. -/
structure Does (g : Gateway) (m : Store) (request : Request) (response : Response)
    (left : Store) : Prop where
  allowed : request.method.isMutating = true → g.settings.readOnly = false
  effect : g.Effect m request response left
  opened : ∀ writer, response = .writer writer → request.method.isMutating = true ∧ left = m

/-- Writers are handed out by two methods only. -/
theorem perform_writes (g : Gateway) (request : Request) :
    g.Confines (g.perform request) fun response => ∀ writer, response = .writer writer →
      ∃ path, request = .put path ∨ request = .openFile path := by
  cases hmutating : request.method.isMutating with
  | false =>
    exact FsProgram.Confined.mono (g.perform_peeks hmutating) (fun _ => g.gives_of_looking)
      fun _ hr w hw => absurd hw (hr w)
  | true =>
    cases request with
    | put path => exact (confines_of_peeks (g.openWriter_peeks path)).map fun _ _ _ _ => ⟨path, .inl rfl⟩
    | openFile path =>
      exact (confines_of_peeks (g.openWriter_peeks path)).map fun _ _ _ _ => ⟨path, .inr rfl⟩
    | mkdir path => exact (g.makeBucket_confined path).map fun _ _ w h => nomatch h
    | remove path | rmdir path => exact (g.remove_confined path).map fun _ _ w h => nomatch h
    | _ => cases hmutating

theorem dispatch_does (hm : m.Apart) (g : Gateway) (request : Request) :
    FsProgram.AllOrNothing m (g.dispatch request) (g.Does m request) := by
  unfold dispatch
  split
  · exact .throw _
  · rename_i hallowed
    refine ((g.perform_effect hm request).confined (g.perform_writes request)).imp ?_
    rintro response left ⟨heffect, hwrites⟩
    refine ⟨fun hmutating => by simpa [hmutating] using hallowed, heffect, fun writer hwriter => ?_⟩
    obtain ⟨path, rfl | rfl⟩ := hwrites writer hwriter <;> exact ⟨rfl, heffect.leaves⟩

end Gateway

namespace Http

/-- What an exchange leaves of a store. -/
inductive Change (g : Gateway) (m : Store) : Store → Prop
  | idle : Change g m m
  /-- One request of the file protocol is carried out. -/
  | served {request : ObjectGateway.Request} {response : ObjectGateway.Response} {left : Store}
      (does : g.Does m request response left) : Change g m left
  /-- A writer is opened, and what has been staged with it is stored. -/
  | stored {path : FsPath} {writer : Writer} {staging : Staging} {id : ObjectId} {left : Store}
      (allowed : g.settings.readOnly = false) (opens : g.Opens m path writer)
      (stores : Writer.Stores { writer with staging } g m id left) : Change g m left

open Handler (Brings)

section Verbs

variable {σ : Type} {b : Backend (World σ)} {holds : World σ → Store → Prop}
  {m left : Store} {g : Gateway} (hb : Atomic b holds) (hm : m.Apart)

include hb hm

theorem storeAll_brings {path : FsPath} {writer : Writer} (hallowed : g.settings.readOnly = false)
    (hopens : g.Opens m path writer) (staging : Staging) :
    Brings b holds (Change g m) m (storeAll g { writer with staging }) fun _ => Change g m :=
  (Brings.ofFs hb (Writer.close_stores hm g { writer with staging }) .idle).bind hb
    fun _ _ hstores => .pure (.stored hallowed hopens hstores)

theorem respond_brings (method : Method) (q : Query) {request : ObjectGateway.Request}
    {outcome : ObjectGateway.Response} (hdoes : g.Does m request outcome left) :
    Brings b holds (Change g m) left (respond g method q outcome) fun _ => Change g m := by
  have hserved : Change g m left := .served hdoes
  cases outcome with
  | entries items =>
    unfold respond
    dsimp only
    split
    · split
      · exact .pure hserved
      · exact .throw hserved _
    · exact .pure hserved
  | reader r => exact .pure hserved
  | writer writer =>
    obtain ⟨hmutating, rfl⟩ := hdoes.opened writer rfl
    exact storeAll_brings hb hm (hdoes.allowed hmutating) (hdoes.effect.opens writer rfl)
      writer.staging
  | done => exact .pure hserved

/-- A request is carried out, and its handler goes on with the outcome. -/
theorem dispatch_then {α : Type} {request : Except FsError ObjectGateway.Request}
    {k : ObjectGateway.Request → ObjectGateway.Response → Handler α} {Q : α → Store → Prop}
    (hk : ∀ request outcome left, g.Does m request outcome left →
      Brings b holds (Change g m) left (k request outcome) Q) :
    Brings b holds (Change g m) m (do
      let request ← Handler.ofExcept request
      let outcome ← Handler.ofFs (g.dispatch request)
      k request outcome) Q := by
  refine (Brings.ofExcept .idle request).bind hb fun request left hrequest => ?_
  obtain ⟨rfl, -⟩ := hrequest
  exact (Brings.ofFs hb (g.dispatch_does hm request) .idle).bind hb (hk request)

theorem carry_brings (method path : String) (target : Option String) (q : Query) :
    Brings b holds (Change g m) m (carry g method path target q) fun _ => Change g m :=
  dispatch_then hb hm fun request _ _ hdoes => respond_brings hb hm request.method q hdoes

omit hm in
/-- Staging a body changes nothing but what is staged. -/
theorem stageBody_brings (writer : Writer) (offset : Nat) (body : List (Except String Bytes)) :
    Brings b holds (Change g m) m (stageBody writer offset body) fun staged left =>
      left = m ∧ ∃ staging, staged = { writer with staging } := by
  -- Every chunk goes to the writer that the chunks before it have left.
  induction body generalizing writer offset with
  | nil => exact .pure ⟨rfl, writer.staging, rfl⟩
  | cons first rest ih =>
    cases first with
    | error cause => exact .throw .idle _
    | ok chunk =>
      refine (Brings.ofExcept .idle _).bind hb ?_
      rintro next _ ⟨rfl, hnext⟩
      obtain rfl := Except.ok.inj hnext
      refine (ih _ _).imp fun r left hr => ?_
      cases r with
      | ok staged => exact hr
      | error answer => exact hr

theorem putPath_brings (path : String) (body : List (Except String Bytes)) :
    Brings b holds (Change g m) m (putPath g path body) fun _ => Change g m := by
  refine dispatch_then hb hm fun request outcome left hdoes => ?_
  cases outcome with
  | writer writer =>
    obtain ⟨hmutating, rfl⟩ := hdoes.opened writer rfl
    refine (stageBody_brings hb writer 0 body).bind hb ?_
    rintro _ _ ⟨rfl, staging, rfl⟩
    exact storeAll_brings hb hm (hdoes.allowed hmutating) (hdoes.effect.opens writer rfl) staging
  | _ => exact .throw (.served hdoes) _

theorem deletePath_brings (path : String) (q : Query) :
    Brings b holds (Change g m) m (deletePath g path q) fun _ => Change g m := by
  refine (Brings.ofExcept .idle _).bind hb ?_
  rintro request _ ⟨rfl, -⟩
  split
  · exact .throw .idle _
  · exact (Brings.ofFs hb (g.dispatch_does hm request) .idle).bind hb
      fun _ _ hdoes => respond_brings hb hm .remove q hdoes

omit hb hm in
theorem getMethod_brings (q : Query) :
    Brings b holds (Change g m) m (getMethod q) fun _ left => left = m := by
  unfold getMethod
  split
  · exact .pure rfl
  · exact .pure rfl
  · exact .pure rfl
  · exact .throw .idle _

theorem getPath_brings (path : String) (q : Query) :
    Brings b holds (Change g m) m (getPath g path q) fun _ => Change g m := by
  refine (getMethod_brings q).bind hb ?_
  rintro method _ rfl
  exact carry_brings hb hm method.name path none q

theorem postPath_brings (path : String) (q : Query) :
    Brings b holds (Change g m) m (postPath g path q) fun _ => Change g m := by
  unfold postPath
  split
  · exact .throw .idle _
  · exact carry_brings hb hm _ _ _ _

omit hb hm in
theorem routeQuery_brings (query : List Char) :
    Brings b holds (Change g m) m (routeQuery query) fun _ left => left = m := by
  unfold routeQuery
  split
  · exact .pure rfl
  · exact .throw .idle _

omit hb hm in
theorem routePath_brings (raw : List Char) :
    Brings b holds (Change g m) m (routePath raw) fun _ left => left = m := by
  unfold routePath
  split
  · exact .pure rfl
  · exact .throw .idle _

end Verbs

-- ---------------------------------------------------------------------------
-- Exchanges
-- ---------------------------------------------------------------------------

variable {m : Store} {g : Gateway} (k : BackendKind) (hm : m.Apart)

include hm

theorem serve_brings (route : Route) (verb : String) (query : List Char)
    (body : List (Except String Bytes)) :
    Program.Brings k.backend k.Holds m (serve g route verb query body) fun _ => Change g m := by
  have hb := k.faithful.atomic
  cases route with
  | healthz => exact .done .idle
  | readyz => exact (readyz_brings k g).imp fun _ _ h => h ▸ .idle
  | root =>
    refine Brings.finish hb ((routeQuery_brings query).bind hb ?_)
    rintro q _ rfl
    split
    · exact postPath_brings hb hm "/" q
    · exact getPath_brings hb hm "/" q
  | entry raw =>
    refine Brings.finish hb ((routePath_brings raw).bind hb ?_)
    rintro path _ rfl
    split
    · exact putPath_brings hb hm path body
    · refine (routeQuery_brings query).bind hb ?_
      rintro q _ rfl
      split
      · exact deletePath_brings hb hm path q
      · split
        · exact postPath_brings hb hm path q
        · exact getPath_brings hb hm path q

theorem handle_brings (r : Request) :
    Program.Brings k.backend k.Holds m (handle g r) fun _ => Change g m := by
  unfold handle
  split
  · unfold answerResource
    split
    · exact .done .idle
    · split
      · split
        · exact (serve_brings k hm _ _ _ _).bind k.faithful.atomic fun _ _ h => .done h
        · exact serve_brings k hm _ _ _ _
      · exact .done .idle
  · exact .done .idle
  · exact .done .idle

/-- Whatever becomes of it, an exchange changes the store in one of a few ways. -/
theorem exchange_brings (r : Request) :
    Program.Brings k.backend k.Holds m (exchange g r) fun _ => Change g m := by
  refine (handle_brings k hm r).bind k.faithful.atomic fun answer left hleft => ?_
  refine (Program.Ends.brings k.faithful.atomic (answer.body.send_confined fun _ _ _ _ => rfl).ends).bind
    k.faithful.atomic ?_
  rintro sent _ ⟨rfl, -⟩
  exact .done hleft

end Http
end ObjectGateway
