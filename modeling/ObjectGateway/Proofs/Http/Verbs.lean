import ObjectGateway.Proofs.Gateway.Staging
import ObjectGateway.Proofs.Http.Handlers
import ObjectGateway.Proofs.Http.Harmless
/-!
# Verbs and the methods that they carry

GET, PUT and DELETE carry methods of the file protocol, each in a handler of its own, and POST
carries any method by its name. Every handler comes to the same in the end: the path is read,
what is asked for there is carried out, and its outcome is the answer. So a verb and the POST
of its method are one program, which every store and every gateway runs alike.
-/
namespace ObjectGateway

-- ---------------------------------------------------------------------------
-- Methods of one path
-- ---------------------------------------------------------------------------

/-- The method makes this request of a path, and does not look at a second path. -/
def Method.Makes (m : Method) (deed : FsPath → Request) : Prop :=
  ∀ path second, Request.build m path second = .ok (deed path)

section Methods

variable {m : Method} {deed : FsPath → Request} {name path : String} {target : Option String}

theorem Request.ofWire_eq (hname : Method.ofName? name = some m) (hmakes : m.Makes deed) :
    ofWire name path target = (FsPath.parse path).map deed := by
  cases hp : FsPath.parse path with
  | error cause => exact ofWire_misplaced hname hp
  | ok p =>
    rw [ofWire_placed hname hp]
    exact hmakes p _

/-- A writer is all that a put can hand out. -/
theorem Gateway.dispatch_put_eq (g : Gateway) (path : FsPath) :
    ∃ opening : FsProgram Writer, g.dispatch (.put path) = Response.writer <$> opening := by
  unfold dispatch
  split
  · exact ⟨throw _, rfl⟩
  · exact ⟨g.openWriter path, rfl⟩

end Methods

namespace Http

-- ---------------------------------------------------------------------------
-- Steps of a handler
-- ---------------------------------------------------------------------------

namespace Handler

variable {α β γ : Type}

theorem ofExcept_map_bind (f : α → β) (r : Except FsError α) (k : β → Handler γ) :
    ofExcept (r.map f) >>= k = ofExcept r >>= fun a => k (f a) := by
  cases r <;> rfl

theorem ofFs_map_bind (f : α → β) (p : FsProgram α) (k : β → Handler γ) :
    ofFs (f <$> p) >>= k = ofFs p >>= fun a => k (f a) := by
  change Program.bind (Program.bind (Program.bind p.run _) _) _ =
    Program.bind (Program.bind p.run _) _
  simp only [Program.bind_assoc]
  refine congrArg p.run.bind (funext fun r => ?_)
  cases r <;> rfl

end Handler

-- ---------------------------------------------------------------------------
-- Queries
-- ---------------------------------------------------------------------------

/-- What a query asks for of a listing or of an object. -/
structure Extent where
  offset : Option Nat
  length : Option Nat
  limit : Option Nat

namespace Query

def extent (q : Query) : Extent := ⟨q.offset, q.length, q.limit⟩

/-- The query names this method, in letters of any case. -/
def Names (q : Query) (m : Method) : Prop :=
  ∃ name, q.op = some name ∧ Method.ofName? name = some m

/-- Two queries that ask for the same extent, or have the same fault. They may name different
methods and different targets. -/
def Alike (query query' : List Char) : Prop :=
  (parse query).map extent = (parse query').map extent

end Query

-- ---------------------------------------------------------------------------
-- One handler for all verbs
-- ---------------------------------------------------------------------------

/-- Carry out what is asked for at a path, and answer with the outcome. -/
def answerAt (g : Gateway) (deed : FsPath → ObjectGateway.Request) (q : Query) (path : String) :
    Handler Response := do
  let place ← Handler.ofExcept (FsPath.parse path)
  let outcome ← Handler.ofFs (g.dispatch (deed place))
  respond g (deed place).method q outcome

variable {g : Gateway} {q q' : Query} {m : Method} {deed : FsPath → ObjectGateway.Request}
  {path name : String} {target : Option String}

/-- An answer depends on the extent that is asked for, and on nothing else in the query. -/
theorem respond_congr (g : Gateway) (m : Method) (h : q.extent = q'.extent) :
    respond g m q = respond g m q' := by
  obtain ⟨hoffset, hlength, hlimit⟩ := Extent.mk.inj h
  funext outcome
  cases outcome with
  | entries items => simp only [respond, listingPage, hoffset, hlimit]
  | reader r => simp only [respond, readWindow, hoffset, hlength]
  | writer w => rfl
  | done => rfl

/-- Only what Stat finds is shown in another way. -/
theorem respond_of_ne_stat {m' : Method} (g : Gateway) (q : Query) (hm : m ≠ .stat)
    (hm' : m' ≠ .stat) : respond g m q = respond g m' q := by
  funext outcome
  cases outcome with
  | entries items => simp only [respond, if_neg hm, if_neg hm']
  | _ => rfl

theorem answerAt_congr (h : q.extent = q'.extent) :
    answerAt g deed q path = answerAt g deed q' path := by
  simp only [answerAt, respond_congr g _ h]

/-- Rmdir removes as Remove does. -/
theorem answerAt_rmdir (g : Gateway) (q : Query) (path : String) :
    answerAt g .rmdir q path = answerAt g .remove q path := by
  have hanswer : respond g .rmdir q = respond g .remove q :=
    respond_of_ne_stat g q (by decide) (by decide)
  change (do
    let place ← Handler.ofExcept (FsPath.parse path)
    let outcome ← Handler.ofFs (g.dispatch (.remove place))
    respond g .rmdir q outcome) = _
  rw [hanswer]
  rfl

/-- Open writes as Put does. -/
theorem answerAt_openFile (g : Gateway) (q : Query) (path : String) :
    answerAt g .openFile q path = answerAt g .put q path := by
  have hanswer : respond g .openFile q = respond g .put q :=
    respond_of_ne_stat g q (by decide) (by decide)
  change (do
    let place ← Handler.ofExcept (FsPath.parse path)
    let outcome ← Handler.ofFs (g.dispatch (.put place))
    respond g .openFile q outcome) = _
  rw [hanswer]
  rfl

theorem carry_eq (hname : Method.ofName? name = some m) (hmakes : m.Makes deed) :
    carry g name path target q = answerAt g deed q path := by
  rw [carry, Request.ofWire_eq hname hmakes, Handler.ofExcept_map_bind]
  rfl

-- ---------------------------------------------------------------------------
-- What each verb comes to
-- ---------------------------------------------------------------------------

theorem postPath_eq (hnames : q.Names m) (hmakes : m.Makes deed) :
    postPath g path q = answerAt g deed q path := by
  obtain ⟨name, hop, hname⟩ := hnames
  rw [postPath, hop]
  exact carry_eq hname hmakes

/-- The methods that GET carries, by the names that it has for them. -/
def getOps : List (String × Method) :=
  [("list", .list), ("stat", .stat), ("read", .get)]

theorem mem_getOps : (name, m) ∈ getOps ↔
    name = "list" ∧ m = .list ∨ name = "stat" ∧ m = .stat ∨ name = "read" ∧ m = .get := by
  simp only [getOps, List.mem_cons, List.not_mem_nil, or_false, Prod.mk.injEq]

theorem getPath_eq (hop : (q.op.getD "stat", m) ∈ getOps) (hmakes : m.Makes deed) :
    getPath g path q = answerAt g deed q path := by
  have hmethod : getMethod q = pure m := by
    unfold getMethod
    obtain ⟨hname, rfl⟩ | ⟨hname, rfl⟩ | ⟨hname, rfl⟩ := mem_getOps.mp hop <;> rw [hname] <;> rfl
  rw [getPath, hmethod]
  exact carry_eq (Method.ofName?_name m) hmakes

theorem deletePath_eq (hop : q.op = none ∨ q.Names .remove ∨ q.Names .rmdir) :
    deletePath g path q = answerAt g .remove q path := by
  -- A DELETE that names no method asks for Remove.
  have hnamed : ∃ m, (m = .remove ∨ m = .rmdir) ∧
      Method.ofName? (q.op.getD Method.remove.name) = some m := by
    obtain hnone | ⟨name, hop, hname⟩ | ⟨name, hop, hname⟩ := hop
    · exact ⟨.remove, .inl rfl, by rw [hnone]; exact Method.ofName?_name .remove⟩
    · exact ⟨.remove, .inl rfl, by rwa [hop]⟩
    · exact ⟨.rmdir, .inr rfl, by rwa [hop]⟩
  obtain ⟨m, rfl | rfl, hname⟩ := hnamed
  · rw [deletePath, Request.ofWire_eq hname fun _ _ => rfl, Handler.ofExcept_map_bind]
    rfl
  · rw [deletePath, Request.ofWire_eq hname fun _ _ => rfl, Handler.ofExcept_map_bind]
    rfl

/-- A write without data at the start is not noticed when the writer is closed. -/
theorem storeAll_empty (g : Gateway) (w : Writer) :
    storeAll g { w with staging := ⟨w.staging.writes ++ [(0, [])]⟩ } = storeAll g w := by
  have hlength : (Staging.mk (w.staging.writes ++ [(0, [])])).length = w.staging.length := by
    simp [Staging.length]
  have hupload : ∀ size, (Staging.mk (w.staging.writes ++ [(0, [])])).upload size =
      w.staging.upload size := by
    intro size
    have hcontent : (Staging.mk (w.staging.writes ++ [(0, [])])).content = w.staging.content := by
      simp [Staging.content, Staging.overlay_of_isEmpty]
    rw [Staging.upload, Staging.upload, hlength, hcontent]
  have hclose : Writer.close g { w with staging := ⟨w.staging.writes ++ [(0, [])]⟩ } = w.close g := by
    rw [Writer.close, Writer.close, hupload]
  rw [storeAll, storeAll, hclose, Writer.length, hlength]
  rfl

/-- What is staged of an empty body, in however many pieces it comes, is stored like nothing. -/
theorem stageBody_empty {body : List (Except String Bytes)} (hempty : ∀ part ∈ body, part = .ok [])
    (w : Writer) : stageBody w 0 body >>= storeAll g = storeAll g w := by
  -- Every piece leaves a writer with one write more, and nothing is added to the offset.
  induction body generalizing w with
  | nil => rfl
  | cons part rest ih =>
    obtain rfl := hempty part List.mem_cons_self
    have hstep : stageBody w 0 (.ok [] :: rest) =
        stageBody { w with staging := ⟨w.staging.writes ++ [(0, [])]⟩ } 0 rest := rfl
    rw [hstep, ih fun part hpart => hempty part (List.mem_cons_of_mem _ hpart)]
    exact storeAll_empty g w

theorem putPath_eq {body : List (Except String Bytes)} (hempty : ∀ part ∈ body, part = .ok [])
    (q : Query) : putPath g path body = answerAt g .put q path := by
  have hput : ObjectGateway.Request.ofWire Method.put.name path none =
      (FsPath.parse path).map .put :=
    Request.ofWire_eq (Method.ofName?_name .put) fun _ _ => rfl
  rw [putPath, answerAt, hput, Handler.ofExcept_map_bind]
  refine congrArg (Handler.ofExcept (FsPath.parse path) >>= ·) (funext fun place => ?_)
  obtain ⟨opening, hopens⟩ := g.dispatch_put_eq place
  rw [hopens, Handler.ofFs_map_bind, Handler.ofFs_map_bind]
  exact congrArg (Handler.ofFs opening >>= ·) (funext fun w => stageBody_empty hempty w)

-- ---------------------------------------------------------------------------
-- Routes
-- ---------------------------------------------------------------------------

/-- The path that a resource of the filesystem stands for. -/
def Route.address : Route → Handler String
  | .entry raw => routePath raw
  | _ => return "/"

/-- Read path and query, and go on with both. -/
def reading (route : Route) (query : List Char) (k : String → Query → Handler Response) :
    Program Response :=
  Handler.finish do
    let path ← route.address
    let q ← routeQuery query
    k path q

/-- Queries that cannot be read are answered alike when they have the same fault. -/
theorem reading_congr {route : Route} {query query' : List Char}
    {k k' : String → Query → Handler Response} (halike : Query.Alike query query')
    (hk : ∀ path q q', Query.parse query = .ok q → Query.parse query' = .ok q' →
      q.extent = q'.extent → k path q = k' path q') :
    reading route query k = reading route query' k' := by
  have hthen : ∀ path, routeQuery query >>= k path = routeQuery query' >>= k' path := by
    intro path
    unfold Query.Alike at halike
    unfold routeQuery
    cases hq : Query.parse query with
    | error e =>
      cases hq' : Query.parse query' with
      | error e' =>
        rw [hq, hq'] at halike
        obtain rfl : e = e' := Except.error.inj halike
        rfl
      | ok q' => rw [hq, hq'] at halike; cases halike
    | ok q =>
      cases hq' : Query.parse query' with
      | error e' => rw [hq, hq'] at halike; cases halike
      | ok q' =>
        rw [hq, hq'] at halike
        exact hk path q q' hq hq' (Except.ok.inj halike)
  simp only [reading, hthen]

section Handling

variable {route : Route} {raw path query : List Char} {body : List (Except String Bytes)}

theorem handle_eq_serve {verb : String} (hroute : Route.ofPath? path = some route)
    (hallowed : route.allowed.contains verb) (hhead : verb ≠ "HEAD") :
    handle g ⟨verb, .resource path query, body⟩ = serve g route verb query body := by
  simp only [handle, answerResource, hroute, hallowed, if_pos, if_neg hhead]

theorem handle_get_eq (hroute : Route.ofPath? path = some route)
    (hplace : route = .root ∨ ∃ raw, route = .entry raw) :
    handle g ⟨"GET", .resource path query, body⟩ = reading route query (getPath g) := by
  obtain rfl | ⟨raw, rfl⟩ := hplace <;>
    exact handle_eq_serve hroute (by simp [Route.allowed]) (by decide)

theorem handle_post_eq (hroute : Route.ofPath? path = some route)
    (hplace : route = .root ∨ ∃ raw, route = .entry raw) :
    handle g ⟨"POST", .resource path query, body⟩ = reading route query (postPath g) := by
  obtain rfl | ⟨raw, rfl⟩ := hplace <;>
    exact handle_eq_serve hroute (by simp [Route.allowed]) (by decide)

theorem handle_delete_eq (hroute : Route.ofPath? path = some (.entry raw)) :
    handle g ⟨"DELETE", .resource path query, body⟩ =
      reading (.entry raw) query (deletePath g) :=
  handle_eq_serve hroute (by simp [Route.allowed]) (by decide)

theorem handle_put_eq (hroute : Route.ofPath? path = some (.entry raw)) :
    handle g ⟨"PUT", .resource path query, body⟩ =
      Handler.finish (routePath raw >>= fun path => putPath g path body) :=
  handle_eq_serve hroute (by simp [Route.allowed]) (by decide)

end Handling

-- ---------------------------------------------------------------------------
-- Counterparts
-- ---------------------------------------------------------------------------

/-- A request by a verb of its own, and the POST for the same path that carries its method by
name. Bodies count for PUT alone, and the query of a PUT does not. -/
inductive Counterpart : Request → Request → Prop
  /-- GET lists, describes or reads; it may do so at the root of the filesystem, too. -/
  | looking {route : Route} {path query query' : List Char} {body body' : List (Except String Bytes)}
      {m : Method} (resource : Route.ofPath? path = some route)
      (place : route = .root ∨ ∃ raw, route = .entry raw) (alike : Query.Alike query query')
      (carries : ∀ q, Query.parse query = .ok q → (q.op.getD "stat", m) ∈ getOps)
      (named : ∀ q, Query.parse query' = .ok q → q.Names m) :
      Counterpart ⟨"GET", .resource path query, body⟩ ⟨"POST", .resource path query', body'⟩
  /-- DELETE removes, by either name of this or by none. -/
  | removing {raw path query query' : List Char} {body body' : List (Except String Bytes)}
      (resource : Route.ofPath? path = some (.entry raw)) (alike : Query.Alike query query')
      (carries : ∀ q, Query.parse query = .ok q → q.op = none ∨ q.Names .remove ∨ q.Names .rmdir)
      (named : ∀ q, Query.parse query' = .ok q → q.Names .remove ∨ q.Names .rmdir) :
      Counterpart ⟨"DELETE", .resource path query, body⟩ ⟨"POST", .resource path query', body'⟩
  /-- PUT without content stores an empty object, as a writer does that is opened by POST. -/
  | storing {raw path query query' : List Char} {body body' : List (Except String Bytes)} {q : Query}
      (resource : Route.ofPath? path = some (.entry raw)) (empty : ∀ part ∈ body, part = .ok [])
      (readable : Query.parse query' = .ok q) (named : q.Names .put ∨ q.Names .openFile) :
      Counterpart ⟨"PUT", .resource path query, body⟩ ⟨"POST", .resource path query', body'⟩

/-- A request and its counterpart are handled by one program. -/
theorem handle_counterpart (g : Gateway) {r post : Request} (h : Counterpart r post) :
    handle g r = handle g post := by
  cases h with
  | @looking _ _ _ _ _ _ m resource place alike carries named =>
    rw [handle_get_eq resource place, handle_post_eq resource place]
    refine reading_congr alike fun path q q' hq hq' hextent => ?_
    have hanswer : ∀ {deed : FsPath → ObjectGateway.Request}, m.Makes deed →
        getPath g path q = postPath g path q' := by
      intro deed hmakes
      rw [getPath_eq (carries q hq) hmakes, postPath_eq (named q' hq') hmakes,
        answerAt_congr hextent]
    obtain ⟨-, rfl⟩ | ⟨-, rfl⟩ | ⟨-, rfl⟩ := mem_getOps.mp (carries q hq) <;>
      exact hanswer fun _ _ => rfl
  | removing resource alike carries named =>
    rw [handle_delete_eq resource, handle_post_eq resource (.inr ⟨_, rfl⟩)]
    refine reading_congr alike fun path q q' hq hq' hextent => ?_
    rw [deletePath_eq (carries q hq), answerAt_congr hextent]
    obtain hnames | hnames := named q' hq'
    · rw [postPath_eq hnames fun _ _ => rfl]
    · rw [postPath_eq hnames fun _ _ => rfl, answerAt_rmdir]
  | @storing _ _ _ _ _ _ q resource empty readable named =>
    have hpost : ∀ path, postPath g path q = answerAt g .put q path := by
      intro path
      obtain hnames | hnames := named
      · exact postPath_eq hnames fun _ _ => rfl
      · rw [postPath_eq hnames fun _ _ => rfl, answerAt_openFile]
    rw [handle_put_eq resource, handle_post_eq resource (.inr ⟨_, rfl⟩)]
    simp only [reading, routeQuery, readable, putPath_eq empty q]
    exact congrArg (fun k => Handler.finish (routePath _ >>= k)) (funext fun path =>
      (hpost path).symm)

theorem exchange_counterpart (g : Gateway) {r post : Request} (h : Counterpart r post) :
    exchange g r = exchange g post := by
  rw [exchange, exchange, handle_counterpart g h]

/-- On every store, in every state of it and whatever becomes of the request, a verb is answered
as the POST of its method is at the same moment: with the same head, the same body as it is
sent, and with the same state left behind. -/
theorem verbs_agree_with_post {σ : Type} (b : Backend (World σ)) (g : Gateway) (ctx : Context)
    (w : World σ) {r post : Request} (h : Counterpart r post) :
    ctx.run b (exchange g r) w = ctx.run b (exchange g post) w := by
  rw [exchange_counterpart g h]

/-- The root is listed, a bucket gets an object whose body comes in one piece without content,
and the bucket is removed. -/
theorem verbs_agree_with_post_bucket :
    let g : Gateway := ⟨{}, 1, 0⟩
    let start : World Memory.Store := ⟨{ files := ⟨[(["tmp"], .dir)]⟩, ids := ⟨BitVec.ofNat 128, 1⟩ },
      { buckets := [{ info := ⟨⟨0⟩, Id.nil, defaultPolicy, .restricted,
          .named Attributes.nameKey "b" 0⟩ }] }⟩
    let asked (verb path query : String) (body : List (Except String Bytes)) : Request :=
      ⟨verb, .resource path.toList query.toList, body⟩
    let answered (r : Request) := Context.run {} Memory.backend (exchange g r) start
    let list := asked "GET" "/fs" "op=list&limit=1" []
    let listPost := asked "POST" "/fs" "limit=1&target=a%2Fb&op=lIST" []
    let put := asked "PUT" "/fs/b/f" "" [.ok []]
    let putPost := asked "POST" "/fs/b/f" "op=Open&offset=18446744073709551615" []
    let remove := asked "DELETE" "/fs/b" "" []
    let removePost := asked "POST" "/fs/b" "op=Remove" []
    Counterpart list listPost ∧ answered list = answered listPost ∧
      (answered listPost).1.1.status = 200 ∧
    Counterpart put putPost ∧ answered put = answered putPost ∧
      (answered putPost).1.1.status = 201 ∧
    Counterpart remove removePost ∧ answered remove = answered removePost ∧
      (answered removePost).1.1.status = 204 ∧ (answered removePost).2.store.buckets = [] := by
  intro g start asked answered list listPost put putPost remove removePost
  have hlist : Counterpart list listPost := by
    have hroute : Route.ofPath? "/fs".toList = some .root := by decide +kernel
    have hparsed : Query.parse "op=list&limit=1".toList =
        .ok { op := some "list", limit := some 1 } := by decide +kernel
    have hparsed' : Query.parse "limit=1&target=a%2Fb&op=lIST".toList =
        .ok { op := some "lIST", limit := some 1, target := some "a/b" } := by decide +kernel
    refine .looking (m := .list) hroute (.inl rfl) ?_ ?_ ?_
    · rw [Query.Alike, hparsed, hparsed']
      rfl
    · rintro q hq
      obtain rfl := Except.ok.inj (hparsed.symm.trans hq)
      decide
    · rintro q hq
      obtain rfl := Except.ok.inj (hparsed'.symm.trans hq)
      exact ⟨_, rfl, by decide +kernel⟩
  have hput : Counterpart put putPost := by
    have hroute : Route.ofPath? "/fs/b/f".toList = some (.entry "b/f".toList) := by decide +kernel
    have hparsed : Query.parse "op=Open&offset=18446744073709551615".toList =
        .ok { op := some "Open", offset := some 18446744073709551615 } := by decide +kernel
    refine .storing hroute ?_ hparsed ?_
    · simp
    · exact .inr ⟨_, rfl, by decide +kernel⟩
  have hremove : Counterpart remove removePost := by
    have hroute : Route.ofPath? "/fs/b".toList = some (.entry "b".toList) := by decide +kernel
    have hparsed : Query.parse "".toList = .ok {} := by decide +kernel
    have hparsed' : Query.parse "op=Remove".toList = .ok { op := some "Remove" } := by
      decide +kernel
    refine .removing hroute ?_ ?_ ?_
    · rw [Query.Alike, hparsed, hparsed']
      rfl
    · rintro q hq
      obtain rfl := Except.ok.inj (hparsed.symm.trans hq)
      exact .inl rfl
    · rintro q hq
      obtain rfl := Except.ok.inj (hparsed'.symm.trans hq)
      exact .inl ⟨_, rfl, by decide +kernel⟩
  exact ⟨hlist, verbs_agree_with_post _ g {} start hlist, by decide +kernel,
    hput, verbs_agree_with_post _ g {} start hput, by decide +kernel,
    hremove, verbs_agree_with_post _ g {} start hremove, by decide +kernel, by decide +kernel⟩

end Http
end ObjectGateway
