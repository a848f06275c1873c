import ObjectGateway.Proofs.Gateway.RoundTrip
import ObjectGateway.Proofs.Gateway.Transitions
import ObjectGateway.Proofs.Requests
/-!
# What is listed is what is found

A listing shows the first object of each name, and a search for a name finds the first
object of that name, so both come upon the same one; so it is with buckets. All names
that are listed can stand in a path.
-/
namespace ObjectGateway

open Memory (Store StoredBucket StoredObject)
open Config (BackendKind)

-- ---------------------------------------------------------------------------
-- Listed and found
-- ---------------------------------------------------------------------------

variable {m : Store} {found : StoredBucket} {o : StoredObject} {n : String}

theorem Memory.StoredBucket.resolve_of_name (hn : (Id.parse? n : Option ObjectId) = none) :
    found.resolve n = found.roots.find? fun o => o.name == n := by
  rw [StoredBucket.resolve, hn]

theorem Memory.Store.resolve_of_name {owner : OwnerId}
    (hn : (Id.parse? n : Option BucketId) = none) :
    m.resolve owner n =
      (m.buckets.filter fun b => b.info.owner == owner).find? fun b => b.name == n := by
  rw [Store.resolve, hn]

namespace Gateway

variable (g : Gateway)

/-- An object is listed under a name when the name is resolved to it. -/
theorem mem_objectsIn_iff (hn : (Id.parse? n : Option ObjectId) = none) (e : ObjectEntry) :
    (e ∈ g.objectsIn found ∧ e.name = n) ↔ ∃ o, found.resolve n = some o ∧ e = g.objectEntry o := by
  rw [StoredBucket.resolve_of_name hn]
  constructor
  · rintro ⟨he, rfl⟩
    obtain ⟨o, ho, rfl⟩ := List.mem_map.mp he
    exact ⟨o, (Listing.mem_distinct_iff _ _ _).mp ho, rfl⟩
  · rintro ⟨o, ho, rfl⟩
    obtain rfl : o.name = n := by simpa using List.find?_some ho
    exact ⟨List.mem_map_of_mem ((Listing.mem_distinct_iff _ _ _).mpr ho), rfl⟩

/-- A bucket is listed under a name when the name is resolved to it. -/
theorem mem_bucketsIn_iff (hn : (Id.parse? n : Option BucketId) = none) (e : BucketEntry) :
    (e ∈ g.bucketsIn m ∧ e.name = n) ↔
      ∃ b, m.resolve g.settings.owner n = some b ∧ e = g.bucketEntry b := by
  rw [Store.resolve_of_name hn]
  constructor
  · rintro ⟨he, rfl⟩
    obtain ⟨b, hb, rfl⟩ := List.mem_map.mp he
    exact ⟨b, (Listing.mem_distinct_iff _ _ _).mp hb, rfl⟩
  · rintro ⟨b, hb, rfl⟩
    obtain rfl : b.name = n := by simpa using List.find?_some hb
    exact ⟨List.mem_map_of_mem ((Listing.mem_distinct_iff _ _ _).mpr hb), rfl⟩

/-- An object looks the same to every gateway, but for the time of an object that has none. -/
theorem objectEntry_eq (g' : Gateway) (o : StoredObject) :
    g'.objectEntry o = { g.objectEntry o with created := (g'.objectEntry o).created } := rfl

end Gateway

-- ---------------------------------------------------------------------------
-- Removing what is found
-- ---------------------------------------------------------------------------

section Removing

variable {σ α β : Type} {b : Backend (World σ)} {holds : World σ → Store → Prop} {w : World σ}
  {ctx : Context}

/-- A live request that has found something out goes on with it. -/
theorem FsProgram.Reads.run_bind {p : FsProgram α} {a : α} (hp : Reads b holds m p (.ok a))
    (h : holds w m) (hd : w.host.ids.Distinct) (hlive : ctx.Live) {k : α → FsProgram β}
    {Q : Except FsError β × World σ → Prop}
    (hk : ∀ w', holds w' m → w'.host.ids = w.host.ids → Q (ctx.run b (k a).run w')) :
    Q (ctx.run b (p >>= k).run w) := by
  obtain ⟨hresult, hheld, hids⟩ := hp.live h hd hlive
  have hrest := hk _ hheld hids
  rw [Context.run_fsBind]
  generalize ctx.run b p.run w = r at hresult hrest
  obtain ⟨result, left⟩ := r
  obtain rfl := hresult
  exact hrest

/-- What comes of a request that a live client makes: the answer, and the store that is left.
No key is drawn for it. -/
structure ComesTo (holds : World σ → Store → Prop) (w : World σ) (answer : α) (left : Store)
    (r : α × World σ) : Prop where
  answer : r.1 = answer
  holds : holds r.2 left
  ids : r.2.host.ids = w.host.ids

/-- A live request for an object that is there deletes it. -/
theorem Faithful.run_deleteObject (hb : Faithful b holds) (h : holds w m)
    (hd : w.host.ids.Distinct) (hlive : ctx.Live) (hfound : found ∈ m.buckets)
    (ho : o ∈ found.objects) (path : String) :
    ComesTo holds w (.ok ()) (m.removeObject found.info.id o.info.id)
      (ctx.run b (FsProgram.call path (.deleteObject found.info.id o.info.id)).run w) := by
  have hserve : Memory.serve ⟨w.host, m⟩ (.deleteObject found.info.id o.info.id) =
      Memory.answered (.ok (), ⟨w.host, m.removeObject found.info.id o.info.id⟩) := by
    simp only [Memory.serve, (hb.sound h).apart.object?_of_mem hfound ho]
  obtain ⟨hanswer, hheld, hids⟩ :=
    hb.run_answered (c := .deleteObject found.info.id o.info.id) h hd hlive trivial hserve path
  exact ⟨hanswer, hheld, hids⟩

/-- A live request for a bucket that is there deletes it. -/
theorem Faithful.run_deleteBucket (hb : Faithful b holds) (h : holds w m)
    (hd : w.host.ids.Distinct) (hlive : ctx.Live) (hfound : found ∈ m.buckets) (path : String) :
    ComesTo holds w (.ok ()) (m.removeBucket found.info.id)
      (ctx.run b (FsProgram.call path (.deleteBucket found.info.id)).run w) := by
  have hserve : Memory.serve ⟨w.host, m⟩ (.deleteBucket found.info.id) =
      Memory.answered (.ok (), ⟨w.host, m.removeBucket found.info.id⟩) := by
    simp only [Memory.serve, (hb.sound h).bucket?_of_mem hfound]
  obtain ⟨hanswer, hheld, hids⟩ :=
    hb.run_answered (c := .deleteBucket found.info.id) h hd hlive trivial hserve path
  exact ⟨hanswer, hheld, hids⟩

namespace Gateway

variable (g : Gateway) {segment : String}

/-- A live request removes the object that was stored first with the name, whether it looks
like an identifier or not: the bucket is resolved and the object is found; then it is
deleted. -/
theorem run_remove_object (hb : Faithful b holds) (h : holds w m) (hd : w.host.ids.Distinct)
    (hlive : ctx.Live) (hresolve : m.resolve g.settings.owner segment = some found)
    (hfind : found.roots.find? (fun o => o.bears n) = some o) :
    ComesTo holds w (.ok ()) (m.removeObject found.info.id o.info.id)
      (ctx.run b (g.remove (.object segment n)).run w) := by
  have hapart := (hb.sound h).apart
  have hfound := Store.mem_of_resolve hresolve
  have ho : o ∈ found.objects := List.mem_of_mem_filter (List.mem_of_find?_eq_some hfind)
  have hbucket := g.resolveBucket_reads hb hapart segment
  rw [hresolve] at hbucket
  have hobject := g.findObject_reads_bearing hb (hb.healthy h) hapart
    (g.bucketEntry found) rfl n (FsPath.object segment n).text
  rw [hapart.bucket?_of_mem hfound, Option.map_some, hfind] at hobject
  unfold remove
  refine hbucket.run_bind (Q := ComesTo holds w _ _) h hd hlive fun w₁ h₁ hids₁ => ?_
  refine hobject.run_bind (Q := ComesTo holds w _ _) h₁ (hids₁ ▸ hd) hlive fun w₂ h₂ hids₂ => ?_
  have hids := hids₂.trans hids₁
  have hdone := hb.run_deleteObject h₂ (hids ▸ hd) hlive hfound ho (FsPath.object segment n).text
  exact ⟨hdone.answer, hdone.holds, hdone.ids.trans hids⟩

/-- There is nothing to remove when no object was stored with the name. -/
theorem remove_object_reads (hb : Faithful b holds) (hhealthy : m.Healthy) (hm : m.Apart)
    (hresolve : m.resolve g.settings.owner segment = some found)
    (hfind : found.roots.find? (fun o => o.bears n) = none) :
    FsProgram.Reads b holds m (g.remove (.object segment n))
      (.error (.notFound (FsPath.object segment n).text)) := by
  have hfound := Store.mem_of_resolve hresolve
  have hbucket := g.resolveBucket_reads hb hm segment
  rw [hresolve] at hbucket
  have hobject := g.findObject_reads_bearing hb hhealthy hm
    (g.bucketEntry found) rfl n (FsPath.object segment n).text
  rw [hm.bucket?_of_mem hfound, Option.map_some, hfind] at hobject
  exact hbucket.bind_ok hb (hobject.bind_ok hb (.throw _))

/-- A live request removes the bucket that its path is resolved to. -/
theorem run_remove_bucket (hb : Faithful b holds) (h : holds w m) (hd : w.host.ids.Distinct)
    (hlive : ctx.Live) (hresolve : m.resolve g.settings.owner n = some found) :
    ComesTo holds w (.ok ()) (m.removeBucket found.info.id)
      (ctx.run b (g.remove (.bucket n)).run w) := by
  have hbucket := g.resolveBucket_reads hb (hb.sound h).apart n
  rw [hresolve] at hbucket
  unfold remove
  refine hbucket.run_bind (Q := ComesTo holds w _ _) h hd hlive fun w₁ h₁ hids₁ => ?_
  have hdone := hb.run_deleteBucket h₁ (hids₁ ▸ hd) hlive (Store.mem_of_resolve hresolve)
    (FsPath.bucket n).text
  exact ⟨hdone.answer, hdone.holds, hdone.ids.trans hids₁⟩

/-- There is nothing to remove when the path is resolved to no bucket. -/
theorem remove_bucket_reads (hb : Faithful b holds) (hm : m.Apart)
    (hresolve : m.resolve g.settings.owner n = none) :
    FsProgram.Reads b holds m (g.remove (.bucket n)) (.error (.notFound (FsPath.bucket n).text)) := by
  have hbucket := g.resolveBucket_reads hb hm n
  rw [hresolve] at hbucket
  exact hbucket.bind_error hb

/-- A request to remove comes to what the removal comes to. -/
theorem run_dispatch_remove {path : FsPath} (request : Request)
    (hrequest : request = .remove path ∨ request = .rmdir path)
    (hwrite : g.settings.readOnly = false) {answer : Except FsError Unit} {left : Store}
    (h : ComesTo holds w answer left (ctx.run b (g.remove path).run w)) :
    ComesTo holds w (answer.map fun _ => Response.done) left
      (ctx.run b (g.dispatch request).run w) := by
  have hdispatch : g.dispatch request = (fun _ => .done) <$> g.remove path := by
    obtain rfl | rfl := hrequest <;> simp [dispatch, hwrite, perform]
  rw [hdispatch, Context.run_fsMap]
  exact ⟨congrArg (Except.map _) h.answer, h.holds, h.ids⟩

end Gateway

end Removing

-- ---------------------------------------------------------------------------
-- Agreement
-- ---------------------------------------------------------------------------

variable {k : BackendKind} {settings : Settings} {w : World k.Store}

/-- Requests for a path come upon the object that is listed as `e`. Only the time may be
told differently, when none is recorded. -/
structure Finds (k : BackendKind) (settings : Settings) (w : World k.Store) (path : FsPath)
    (e : ObjectEntry) : Prop where
  stat : ∀ (g : Gateway) (ctx : Context), g.settings = settings → ctx.Live →
    ∃ created, ctx.told k.backend (g.dispatch (.stat path)) w =
      .ok (.entries [.object { e with created }])
  get : ∀ (g : Gateway) (ctx : Context), g.settings = settings → ctx.Live →
    ∃ created, ctx.told k.backend (g.dispatch (.get path)) w =
      .ok (.reader ⟨{ e with created }, path.text⟩)
  /-- This object is deleted, and nothing else. -/
  remove : ∀ (g : Gateway) (ctx : Context), g.settings = settings → ctx.Live →
    settings.readOnly = false →
    ctx.told k.backend (g.dispatch (.remove path)) w = .ok .done ∧
      ∃ m left found o, k.Holds w m ∧
        k.Holds (ctx.run k.backend (g.dispatch (.remove path)).run w).2 left ∧
        found.info.id = e.bucket ∧ o.info.id = e.id ∧ m.LosesObject found o left

/-- Listing and lookup agree on what there is, under every name that is no identifier. -/
structure Agreement (k : BackendKind) (settings : Settings) (w : World k.Store) : Prop where
  objects : ∀ (g : Gateway) (ctx : Context) segment response, g.settings = settings → ctx.Live →
    ctx.told k.backend (g.dispatch (.stat (.bucket segment))) w = .ok response →
    ∃ items : List ObjectEntry,
      ctx.told k.backend (g.dispatch (.list (.bucket segment))) w =
        .ok (.entries (items.map Entry.object)) ∧
      ∀ n, (Id.parse? n : Option ObjectId) = none →
        (∀ (g' : Gateway) (ctx' : Context), g'.settings = settings → ctx'.Live →
          ((∃ response, ctx'.told k.backend (g'.dispatch (.stat (.object segment n))) w =
            .ok response) ↔ ∃ e ∈ items, e.name = n)) ∧
        ∀ e ∈ items, e.name = n → Finds k settings w (.object segment n) e
  buckets : ∀ (g : Gateway) (ctx : Context), g.settings = settings → ctx.Live →
    ∃ items : List BucketEntry,
      ctx.told k.backend (g.dispatch (.list .root)) w = .ok (.entries (items.map Entry.bucket)) ∧
      ∀ n, (Id.parse? n : Option BucketId) = none →
        ∀ (g' : Gateway) (ctx' : Context), g'.settings = settings → ctx'.Live →
          ((∃ response, ctx'.told k.backend (g'.dispatch (.stat (.bucket n))) w = .ok response) ↔
            ∃ e ∈ items, e.name = n) ∧
          ∀ e ∈ items, e.name = n → ∃ created,
            ctx'.told k.backend (g'.dispatch (.stat (.bucket n))) w =
              .ok (.entries [.bucket { e with created }])

/-- Every name that is listed is a segment, so its path is read from the text it is written
as. -/
structure ListsSegments (k : BackendKind) (settings : Settings) (w : World k.Store) : Prop where
  objects : ∀ (g : Gateway) (ctx : Context) segment items, g.settings = settings → ctx.Live →
    ctx.told k.backend (g.dispatch (.list (.bucket segment))) w = .ok (.entries items) →
    ∀ e ∈ items, FsPath.IsSegment e.name ∧ (FsPath.IsSegment segment →
      FsPath.parse (FsPath.object segment e.name).text = .ok (.object segment e.name))
  buckets : ∀ (g : Gateway) (ctx : Context) items, g.settings = settings → ctx.Live →
    ctx.told k.backend (g.dispatch (.list .root)) w = .ok (.entries items) →
    ∀ e ∈ items, FsPath.IsSegment e.name ∧
      FsPath.parse (FsPath.bucket e.name).text = .ok (.bucket e.name)

/-- Something is told when something was found. -/
theorem told_iff_found {α β : Type} {path : String} {found? : Option α} {f : α → β} :
    (∃ response, (FsError.orNotFound path found?).map f = .ok response) ↔
      ∃ a, found? = some a := by
  cases found? <;> simp [FsError.orNotFound, Except.map]

/-- A live gateway finds what is there, and fails to find what is not. -/
theorem told_stat_object (h : k.Holds w m) (hlabelled : m.Labelled) (hd : w.host.ids.Distinct)
    {ctx : Context} (hlive : ctx.Live) (g : Gateway) {segment : String}
    (hresolve : m.resolve g.settings.owner segment = some found) (n : String) :
    ctx.told k.backend (g.dispatch (.stat (.object segment n))) w =
      (FsError.orNotFound (FsPath.object segment n).text (found.resolve n)).map fun o =>
        .entries [.object (g.objectEntry o)] := by
  have hb := k.faithful
  have hm := hb.inOrder h hlabelled
  have hstat := (g.stat_object_reads hb hm segment n).map hb fun entry => Response.entries [entry]
  rw [Gateway.atBucket, hresolve] at hstat
  rw [g.dispatch_eq rfl]
  refine (hstat.told h hd hlive).trans ?_
  dsimp only
  cases found.resolve n <;> rfl

theorem told_stat_bucket (h : k.Holds w m) (hlabelled : m.Labelled) (hd : w.host.ids.Distinct)
    {ctx : Context} (hlive : ctx.Live) (g : Gateway) (n : String) :
    ctx.told k.backend (g.dispatch (.stat (.bucket n))) w =
      (FsError.orNotFound ("/" ++ n) (m.resolve g.settings.owner n)).map fun b =>
        .entries [.bucket (g.bucketEntry b)] := by
  have hb := k.faithful
  have hm := hb.inOrder h hlabelled
  rw [(g.dispatch_stat_bucket_reads hb hm n).told h hd hlive]
  cases m.resolve g.settings.owner n <;> rfl

theorem finds (h : k.Holds w m) (hlabelled : m.Labelled) (hd : w.host.ids.Distinct)
    {segment : String} (hresolve : m.resolve settings.owner segment = some found)
    (hn : (Id.parse? n : Option ObjectId) = none) (ho : found.resolve n = some o) {g : Gateway}
    (hg : g.settings = settings) : Finds k settings w (.object segment n) (g.objectEntry o) := by
  have hb := k.faithful
  have hm := hb.inOrder h hlabelled
  constructor
  case stat =>
    rintro g' ctx rfl hlive
    refine ⟨(g'.objectEntry o).created, ?_⟩
    rw [told_stat_object h hlabelled hd hlive g' hresolve, ho, ← g.objectEntry_eq]
    rfl
  case get =>
    rintro g' ctx rfl hlive
    have hat : g'.At m segment n found o := ⟨hresolve, ho⟩
    exact ⟨(g'.objectEntry o).created, (hat.get_reads hb hm).told h hd hlive⟩
  case remove =>
    rintro g' ctx rfl hlive hwrite
    rw [StoredBucket.resolve_of_name hn] at ho
    have hfound := Store.mem_of_resolve hresolve
    have hnames : ∀ o ∈ found.roots, o.bears n = (o.name == n) := fun o ho =>
      hlabelled.bears_eq hfound (List.mem_of_mem_filter ho) n
    have hremoved := g'.run_remove_object hb h hd hlive hresolve
      ((List.find?_congr hnames).trans ho)
    have hdone := g'.run_dispatch_remove (.remove (.object segment n)) (.inl rfl) hwrite
      hremoved
    have hobject : o ∈ found.objects := List.mem_of_mem_filter (List.mem_of_find?_eq_some ho)
    have hplace := ((hb.sound h).inside found hfound).filed o hobject
    exact ⟨hdone.answer, m, _, found, o, h, hdone.holds, hplace.symm, rfl,
      (hb.sound h).apart.losesObject hfound hobject⟩

theorem agreement (h : k.Holds w m) (hlabelled : m.Labelled) (hd : w.host.ids.Distinct) :
    Agreement k settings w := by
  have hb := k.faithful
  have hm := hb.inOrder h hlabelled
  constructor
  case objects =>
    rintro g ctx segment response rfl hlive hstat
    rw [told_stat_bucket h hlabelled hd hlive] at hstat
    cases hresolve : m.resolve g.settings.owner segment with
    | none =>
      rw [hresolve] at hstat
      cases hstat
    | some found =>
      refine ⟨g.objectsIn found, ?_, fun n hn => ⟨fun g' ctx' hg hlive' => ?_, fun e he hname => ?_⟩⟩
      · rw [(g.dispatch_list_reads hb hm segment).told h hd hlive, Gateway.atBucket, hresolve]
        rfl
      · rw [told_stat_object h hlabelled hd hlive' g' (hg ▸ hresolve)]
        rw [told_iff_found]
        constructor
        · rintro ⟨o, ho⟩
          exact ⟨_, (g.mem_objectsIn_iff hn _).mpr ⟨o, ho, rfl⟩⟩
        · rintro ⟨e, he⟩
          obtain ⟨o, ho, -⟩ := (g.mem_objectsIn_iff hn e).mp he
          exact ⟨o, ho⟩
      · obtain ⟨o, ho, rfl⟩ := (g.mem_objectsIn_iff hn e).mp ⟨he, hname⟩
        exact finds h hlabelled hd hresolve hn ho rfl
  case buckets =>
    rintro g ctx rfl hlive
    refine ⟨g.bucketsIn m, (g.dispatch_list_root_reads hb hm).told h hd hlive, ?_⟩
    intro n hn g' ctx' hg hlive'
    rw [told_stat_bucket h hlabelled hd hlive', hg]
    constructor
    · rw [told_iff_found]
      constructor
      · rintro ⟨b, hresolve⟩
        exact ⟨_, (g.mem_bucketsIn_iff hn _).mpr ⟨b, hresolve, rfl⟩⟩
      · rintro ⟨e, he⟩
        obtain ⟨b, hresolve, -⟩ := (g.mem_bucketsIn_iff hn e).mp he
        exact ⟨b, hresolve⟩
    · intro e he hname
      obtain ⟨b, hresolve, rfl⟩ := (g.mem_bucketsIn_iff hn e).mp ⟨he, hname⟩
      rw [hresolve]
      exact ⟨(g'.bucketEntry b).created, rfl⟩

/-- Names that are segments are listed as segments. -/
theorem listsSegments (h : k.Holds w m) (hnames : m.LabelledBy FsPath.IsSegment)
    (hd : w.host.ids.Distinct) : ListsSegments k settings w := by
  have hb := k.faithful
  have hm := hb.inOrder h hnames.labelled
  constructor
  case objects =>
    rintro g ctx segment items rfl hlive hlist e he
    rw [(g.dispatch_list_reads hb hm segment).told h hd hlive, Gateway.atBucket] at hlist
    cases hresolve : m.resolve g.settings.owner segment with
    | none =>
      rw [hresolve] at hlist
      cases hlist
    | some found =>
      rw [hresolve] at hlist
      obtain rfl := Response.entries.inj (Except.ok.inj hlist)
      obtain ⟨entry, hentry, rfl⟩ := List.mem_map.mp he
      obtain ⟨o, ho, rfl⟩ := List.mem_map.mp hentry
      have hobject := List.mem_of_find?_eq_some ((Listing.mem_distinct_iff _ _ _).mp ho)
      have hname : FsPath.IsSegment o.name :=
        hnames.object_name (Store.mem_of_resolve hresolve) (List.mem_of_mem_filter hobject)
      exact ⟨hname, fun hsegment => FsPath.parse_text ⟨hsegment, hname⟩⟩
  case buckets =>
    rintro g ctx items rfl hlive hlist e he
    rw [(g.dispatch_list_root_reads hb hm).told h hd hlive] at hlist
    obtain rfl := Response.entries.inj (Except.ok.inj hlist)
    obtain ⟨entry, hentry, rfl⟩ := List.mem_map.mp he
    obtain ⟨b, hb, rfl⟩ := List.mem_map.mp hentry
    have hbucket := List.mem_of_find?_eq_some ((Listing.mem_distinct_iff _ _ _).mp hb)
    have hname : FsPath.IsSegment b.name := hnames.bucket_name (List.mem_of_mem_filter hbucket)
    exact ⟨hname, FsPath.parse_text (p := .bucket b.name) hname⟩

-- ---------------------------------------------------------------------------
-- Sessions
-- ---------------------------------------------------------------------------

namespace Session

/-- Requests were read from their wire form. -/
def Event.Wired : Event → Prop
  | .request _ _ r => ∃ method path target, Request.ofWire method path target = .ok r
  | _ => True

theorem Event.Wired.names {e : Event} (h : e.Wired) : e.Names FsPath.IsSegment := by
  cases e with
  | request ctx now r =>
    obtain ⟨method, path, target, hwire⟩ := h
    exact Request.each_of_ofWire hwire
  | _ => trivial

/-- Whatever steps a session has come through: what is listed is what is found, opened and
removed. When its requests were read from their wire form, every name that is listed is a
segment. -/
theorem listing_agrees_with_lookup {start : World k.Store} {log : List (Event × Outcome)}
    {s : Session k.Store} (hstart : k.Empty start) (hrun : Run k.backend settings ⟨start, []⟩ log s)
    (hd : s.world.host.ids.Distinct) :
    Agreement k settings s.world ∧
      ((∀ e ∈ log.map Prod.fst, e.Wired) → ListsSegments k settings s.world) := by
  constructor
  · obtain ⟨m, hm, hnames⟩ := hrun.labelledBy (P := fun _ => True) k.faithful hstart.holds
      (fun e _ => e.names_true) hd
    exact agreement hm hnames.labelled hd
  · intro hwired
    obtain ⟨m, hm, hnames⟩ := hrun.labelledBy k.faithful hstart.holds
      (fun e he => (hwired e he).names) hd
    exact listsSegments hm hnames hd

theorem listing_agrees_with_lookup_gap :
    BackendKind.memory.Empty emptyWorld ∧ gapClosed.2.world.host.ids.Distinct ∧
      (∀ e ∈ gapEvents ++ [.close {} 0 0], e.Wired) ∧
      ListsSegments .memory {} gapClosed.2.world ∧
      ∃ e, e.name = "f" ∧ e.size = 5 ∧ Finds .memory {} gapClosed.2.world (.object "b" "f") e := by
  have hstart : BackendKind.memory.Empty emptyWorld := ⟨rfl, rfl, rfl⟩
  have hrun : Run Memory.backend {} ⟨emptyWorld, []⟩ _ gapClosed.2 :=
    (run_after Memory.backend {} ⟨emptyWorld, []⟩ gapEvents).step (.close {} 0 0)
  have hd : gapClosed.2.world.host.ids.Distinct :=
    hrun.distinct_of_few (by decide +kernel)
  have hwired : ∀ e ∈ gapEvents ++ [.close {} 0 0], e.Wired := by
    simp only [gapEvents, List.cons_append, List.nil_append, List.forall_mem_cons]
    refine ⟨⟨"mkdir", "/b", none, by decide +kernel⟩, ⟨"put", "/b/f", none, by decide +kernel⟩,
      trivial, trivial, trivial, fun _ he => nomatch he⟩
  obtain ⟨hagree, hsegments⟩ := listing_agrees_with_lookup (k := .memory) hstart hrun hd
  -- The bucket is found, and the object is listed in it because it is found, too.
  let g : Gateway := ⟨{}, 1, 0⟩
  have hbucket : Context.told {} Memory.backend (g.dispatch (.stat (.bucket "b")))
      gapClosed.2.world = .ok (.entries [.bucket ⟨some ⟨0⟩, "b", 0⟩]) := by
    decide +kernel
  have hobject : Context.told {} Memory.backend (g.dispatch (.stat (.object "b" "f")))
      gapClosed.2.world = .ok (.entries [.object ⟨⟨0⟩, ⟨1⟩, "f", none, 5, 0⟩]) := by
    decide +kernel
  obtain ⟨items, -, hitems⟩ := hagree.objects g {} "b" _ rfl Context.live_default hbucket
  obtain ⟨hlisted, hfinds⟩ := hitems "f" (by decide +kernel)
  obtain ⟨e, he, hname⟩ := (hlisted g {} rfl Context.live_default).mp ⟨_, hobject⟩
  have hfound := hfinds e he hname
  obtain ⟨created, hstat⟩ := hfound.stat g {} rfl Context.live_default
  have hsame := List.head_eq_of_cons_eq
    (Response.entries.inj (Except.ok.inj (hobject.symm.trans hstat)))
  have hsize := congrArg ObjectEntry.size (Entry.object.inj hsame)
  exact ⟨hstart, hd, hwired, hsegments hwired, e, hname, hsize.symm, hfound⟩

end Session
end ObjectGateway
