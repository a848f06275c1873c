import ObjectGateway.Proofs.Gateway.Uniqueness
import ObjectGateway.Proofs.Http.Transitions
/-!
# Names that are taken once, over HTTP

An exchange opens at most one writer and closes it itself, so that no other request comes
between the look for its name and its upload. When duplicates are refused, no name is given
twice, and a request for a name that is taken is told so.
-/
namespace ObjectGateway

open Memory (Store StoredBucket StoredObject)
open Config (BackendKind)

-- ---------------------------------------------------------------------------
-- Names that are taken
-- ---------------------------------------------------------------------------

namespace Memory

def Store.names (m : Store) : List String :=
  m.buckets.filterMap fun b => b.info.attributes.get? Attributes.nameKey

/-- The request would give a name that is taken to another object or bucket. -/
def Store.Taken (m : Store) (owner : OwnerId) : Request → Prop
  | .put (.object segment name) | .openFile (.object segment name) =>
    ∃ b, m.resolve owner segment = some b ∧ name ∈ b.fileNames
  | .mkdir (.bucket name) => name ∈ m.names
  | _ => False

/-- A store that gateways of these settings have filled, who refuse duplicates. -/
structure Store.Unique (settings : Settings) (m : Store) : Prop where
  labelled : m.LabelledBy fun _ => True
  owned : m.Each (fun info => info.owner = settings.owner) fun _ => True
  bucketNames : (m.bucketNames settings.owner).Nodup
  fileNames : m.FileNamesDiffer
  readOnly : settings.readOnly = true → m.buckets = []

variable {settings : Settings} {m : Store}

theorem Store.unique_empty (settings : Settings) : Store.Unique settings {} where
  labelled := fun _ hb => (List.not_mem_nil hb).elim
  owned := fun _ hb => (List.not_mem_nil hb).elim
  bucketNames := List.nodup_nil
  fileNames := fun _ hb => (List.not_mem_nil hb).elim
  readOnly _ := rfl

/-- All names are names of the owner's buckets. -/
theorem Store.Unique.names_eq (h : m.Unique settings) : m.names = m.bucketNames settings.owner := by
  have hall : (m.buckets.filter fun b => b.info.owner == settings.owner) = m.buckets :=
    List.filter_eq_self.mpr fun b hb => beq_iff_eq.mpr (h.owned b hb).1
  rw [names, Store.bucketNames, hall]

/-- Where a name is taken the gateway is not read-only. -/
theorem Store.Unique.writable (h : m.Unique settings) {request : Request}
    (htaken : m.Taken settings.owner request) : settings.readOnly = false := by
  cases hreadOnly : settings.readOnly with
  | false => rfl
  | true =>
    have hempty := h.readOnly hreadOnly
    cases request with
    | put path | openFile path =>
      cases path with
      | object segment name =>
        obtain ⟨b, hresolve, -⟩ := htaken
        have hb := mem_of_resolve hresolve
        rw [hempty] at hb
        cases hb
      | _ => exact htaken.elim
    | mkdir path =>
      cases path with
      | bucket name =>
        rw [Taken, names, hempty] at htaken
        cases htaken
      | _ => exact htaken.elim
    | _ => exact htaken.elim

end Memory

-- ---------------------------------------------------------------------------
-- What a change keeps
-- ---------------------------------------------------------------------------

variable {m left : Store} {g : Gateway}

/-- A request that does not mutate leaves the store as it is. -/
theorem Gateway.Effect.eq_of_looking {request : Request} {response : Response}
    (h : g.Effect m request response left) (hlooking : request.method.isMutating = false) :
    left = m := by
  have hleaves := h.leaves
  cases request with
  | mkdir | remove | rmdir => cases hlooking
  | _ => exact hleaves

namespace Http

theorem Change.eq_of_readOnly (h : Change g m left) (hreadOnly : g.settings.readOnly = true) :
    left = m := by
  cases h with
  | idle => rfl
  | @served request response _ hdoes =>
    refine hdoes.effect.eq_of_looking ?_
    cases hmutating : request.method.isMutating with
    | false => rfl
    | true => rw [hdoes.allowed hmutating] at hreadOnly; cases hreadOnly
  | stored hallowed => rw [hallowed] at hreadOnly; cases hreadOnly

theorem Change.unique (h : Change g m left) (hm : m.Apart)
    (hreject : g.settings.rejectDuplicates = true) (hunique : m.Unique g.settings) :
    left.Unique g.settings := by
  have hreadOnly : g.settings.readOnly = true → left.buckets = [] := fun hreadOnly => by
    rw [h.eq_of_readOnly hreadOnly]
    exact hunique.readOnly hreadOnly
  cases h with
  | idle => exact hunique
  | @served request response _ hdoes =>
    have heffect := hdoes.effect
    exact
      { labelled := heffect.labelledBy request.path.each_true hunique.labelled
        owned := heffect.each hunique.owned fun _ _ _ => rfl
        bucketNames := heffect.bucketNames hreject hunique.bucketNames
        fileNames := heffect.narrows.fileNamesDiffer hunique.fileNames
        readOnly := hreadOnly }
  | stored _ hopens hstores =>
    exact
      { labelled := hstores.labelledBy trivial hunique.labelled
        owned := hstores.each hunique.owned trivial
        bucketNames := by
          rw [hstores.bucketNames]
          exact hunique.bucketNames
        fileNames := hstores.fileNamesDiffer hunique.fileNames fun b hb hid =>
          hopens.notMem_fileNames hm hreject hb hid
        readOnly := hreadOnly }

end Http

-- ---------------------------------------------------------------------------
-- Requests for a name that is taken
-- ---------------------------------------------------------------------------

namespace Gateway

open FsProgram

variable {σ : Type} {b : Backend (World σ)} {holds : World σ → Store → Prop} {ids : IdSupply}

/-- A writer is refused for a name that is taken. -/
theorem openWriter_taken (hb : Faithful b holds) (hm : m.InOrder ids)
    (hreject : g.settings.rejectDuplicates = true) {segment name : String} {found : StoredBucket}
    (hresolve : m.resolve g.settings.owner segment = some found) (htaken : name ∈ found.fileNames) :
    Reads b holds m (g.openWriter (.object segment name))
      (.error (.alreadyExists (FsPath.object segment name).text)) := by
  have hfound := Store.mem_of_resolve hresolve
  have hbucket := g.resolveBucket_reads hb hm.sound.apart segment
  rw [hresolve] at hbucket
  refine hbucket.bind_ok hb ?_
  obtain ⟨o, ho, hname⟩ := List.mem_filterMap.mp htaken
  have hnamed : (found.roots.find? fun o => o.name == name).isSome := by
    refine List.find?_isSome.mpr ⟨o, ho, ?_⟩
    simp [StoredObject.name, hname]
  obtain ⟨first, hfirst⟩ := Option.isSome_iff_exists.mp hnamed
  have hlook := g.findObject_reads hb hm hfound name (FsPath.object segment name).text
  rw [hfirst] at hlook
  simp only [bucketEntry, BucketEntry.ofMeta, hreject, if_true] at hlook ⊢
  exact hlook.bind_ok hb (Reads.bind_error hb (.throw _))

/-- A bucket is refused a name that is taken. -/
theorem makeBucket_taken (hb : Faithful b holds) (hm : m.InOrder ids)
    (hreject : g.settings.rejectDuplicates = true) {name : String}
    (htaken : name ∈ m.bucketNames g.settings.owner) :
    Reads b holds m (g.makeBucket (.bucket name))
      (.error (.alreadyExists (FsPath.bucket name).text)) := by
  obtain ⟨b', hb', hname⟩ := List.mem_filterMap.mp htaken
  have hlisted : (g.bucketsIn m).any fun b => b.name == name := by
    -- The first bucket of the name is listed, if not this one.
    have hshown : name ∈ (Listing.distinct StoredBucket.name
        (m.buckets.filter fun b => b.info.owner == g.settings.owner)).map StoredBucket.name := by
      rw [Listing.mem_map_distinct]
      exact List.mem_map.mpr ⟨b', hb', by simp [StoredBucket.name, hname]⟩
    obtain ⟨first, hfirst, hsame⟩ := List.mem_map.mp hshown
    exact List.any_eq_true.mpr ⟨g.bucketEntry first, List.mem_map_of_mem hfirst, beq_iff_eq.mpr hsame⟩
  simp only [makeBucket, hreject, if_true]
  refine (g.listBuckets_reads hb hm.sound.apart).bind_ok hb ?_
  rw [if_pos hlisted]
  exact Reads.bind_error hb (.throw _)

theorem dispatch_taken (hb : Faithful b holds) (hm : m.InOrder ids)
    (hreject : g.settings.rejectDuplicates = true) (hunique : m.Unique g.settings)
    {request : Request} (htaken : m.Taken g.settings.owner request) :
    Reads b holds m (g.dispatch request) (.error (.alreadyExists request.path.text)) := by
  rw [dispatch, hunique.writable htaken, Bool.and_false]
  cases request with
  | put path | openFile path =>
    cases path with
    | object segment name =>
      obtain ⟨found, hresolve, hname⟩ := htaken
      exact (g.openWriter_taken hb hm hreject hresolve hname).map hb Response.writer
    | _ => exact htaken.elim
  | mkdir path =>
    cases path with
    | bucket name =>
      rw [Store.Taken, hunique.names_eq] at htaken
      exact (g.makeBucket_taken hb hm hreject htaken).map hb fun _ => Response.done
    | _ => exact htaken.elim
  | _ => exact htaken.elim

end Gateway
namespace Http

/-- The request of the file protocol that a PUT or a POST for an entry asks for. -/
inductive Request.Asks (r : Request) (request : ObjectGateway.Request) : Prop
  | put {text : String} {query : List Char} (entry : r.At "PUT" text query)
      (wire : ObjectGateway.Request.ofWire Method.put.name ("/" ++ text) none = .ok request)
  | post {text op : String} {query : List Char} {q : Query} (entry : r.At "POST" text query)
      (parsed : Query.parse query = .ok q) (named : q.op = some op)
      (wire : ObjectGateway.Request.ofWire op ("/" ++ text) q.target = .ok request)

/-- The request of the file protocol is carried out first, and when it fails nothing else is
done. -/
theorem handle_asks (g : Gateway) {r : Request} {request : ObjectGateway.Request}
    (h : r.Asks request) :
    ∃ k, handle g r = (g.dispatch request).run.bind (Handler.orFailure k) := by
  cases h with
  | put entry wire =>
    rw [handle_put g entry, putPath, wire, Handler.ofExcept_bind, Handler.finish_ofFs_bind]
    exact ⟨_, rfl⟩
  | post entry parsed named wire =>
    rw [handle_post g entry parsed, postPath, named]
    dsimp only
    rw [carry, wire, Handler.ofExcept_bind, Handler.finish_ofFs_bind]
    exact ⟨_, rfl⟩

section Refused

variable {σ : Type} {b : Backend (World σ)} {holds : World σ → Store → Prop} {r : Request}
  {request : ObjectGateway.Request} {e : FsError}

/-- A live client is told why its request fails. -/
theorem exchange_sees_failure (hasks : r.Asks request)
    (hfails : (g.dispatch request).run.Sees b holds m (.error e)) :
    ∃ sent, (exchange g r).Sees b holds m (.ofFailure (.ofFsError e), sent) := by
  obtain ⟨k, hhandle⟩ := handle_asks g hasks
  have hanswer : (handle g r).Sees b holds m (.ofFailure (.ofFsError e)) := by
    rw [hhandle]
    exact hfails.bind (.done _)
  exact ⟨_, hanswer.bind (.done _)⟩

/-- Whoever asks, a request that cannot succeed leaves what is stored as it is. -/
theorem exchange_brings_nothing (hb : Atomic b holds) (hasks : r.Asks request)
    (hfails : FsProgram.Reads b holds m (g.dispatch request) (.error e)) :
    Program.Brings b holds m (exchange g r) fun _ left => left = m := by
  have hdispatch : Program.Brings b holds m (g.dispatch request).run fun result left =>
      left = m ∧ ∃ cause, result = .error cause := by
    intro w ctx hm hd
    obtain ⟨hheld, htold⟩ := hfails.any hm hd
    refine ⟨m, hheld, rfl, ?_⟩
    cases hresult : (ctx.run b (g.dispatch request).run w).1 with
    | ok outcome => cases htold outcome hresult
    | error cause => exact ⟨cause, rfl⟩
  obtain ⟨k, hhandle⟩ := handle_asks g hasks
  have hanswer : Program.Brings b holds m (handle g r) fun answer left =>
      left = m ∧ ∃ cause, answer = .ofFailure (.ofFsError cause) := by
    rw [hhandle]
    refine hdispatch.bind hb ?_
    rintro _ _ ⟨rfl, cause, rfl⟩
    exact .done ⟨rfl, cause, rfl⟩
  refine hanswer.bind hb ?_
  rintro _ _ ⟨rfl, cause, rfl⟩
  exact .done rfl

end Refused

-- ---------------------------------------------------------------------------
-- Runs
-- ---------------------------------------------------------------------------

/-- The world that a server is left with when it has answered requests one after the other,
each in a context of its own and at a time of its own. -/
def after {σ : Type} (b : Backend (World σ)) (settings : Settings) (start : World σ)
    (requests : List (Context × Int × Request)) : World σ :=
  requests.foldl (fun w (ctx, now, r) => (ctx.run b (exchange ⟨settings, b.maxChunk w, now⟩ r) w).2)
    start

/-- Keys are only ever drawn. -/
theorem after_extends {σ : Type} {b : Backend (World σ)} {holds : World σ → Store → Prop}
    (hb : Faithful b holds) (settings : Settings) (start : World σ)
    (requests : List (Context × Int × Request)) :
    (after b settings start requests).host.ids.Extends start.host.ids := by
  induction requests generalizing start with
  | nil => exact .refl _
  | cons first rest ih =>
    obtain ⟨ctx, now, r⟩ := first
    exact (ih _).trans (hb.run_extends ctx _ start)

/-- No exchange gives a name twice. -/
theorem after_unique (k : BackendKind) {settings : Settings}
    (hreject : settings.rejectDuplicates = true) {start : World k.Store}
    (requests : List (Context × Int × Request)) (hstart : ∃ m, k.Holds start m ∧ m.Unique settings)
    (hd : (after k.backend settings start requests).host.ids.Distinct) :
    ∃ m, k.Holds (after k.backend settings start requests) m ∧ m.Unique settings := by
  induction requests generalizing start with
  | nil => exact hstart
  | cons first rest ih =>
    obtain ⟨ctx, now, r⟩ := first
    obtain ⟨m, hm, hunique⟩ := hstart
    have hapart := (k.faithful.sound hm).apart
    obtain ⟨left, hheld, hchange⟩ :=
      exchange_brings (g := ⟨settings, k.backend.maxChunk start, now⟩) k hapart r hm
        (hd.of_extends (after_extends k.faithful settings _ rest))
    exact ih ⟨left, hheld, hchange.unique hapart hreject hunique⟩ hd

/-- Whatever requests have been answered since the store was empty, no bucket has two top-level
objects of one file name, and no two buckets have one name. A request for a name that is taken
leaves what is stored as it is, and a live client is told of the conflict. -/
theorem names_stay_unique (k : BackendKind) {settings : Settings}
    (hreject : settings.rejectDuplicates = true) {start : World k.Store} (hstart : k.Empty start)
    (requests : List (Context × Int × Request)) {w : World k.Store}
    (hw : w = after k.backend settings start requests) (hd : w.host.ids.Distinct) :
    ∃ m, k.Holds w m ∧ (∀ b ∈ m.buckets, b.fileNames.Nodup) ∧ m.names.Nodup ∧
      ∀ (r : Request) (request : ObjectGateway.Request), r.Asks request →
        m.Taken settings.owner request → ∀ (ctx : Context) (now : Int),
        let exchanged := ctx.run k.backend (exchange ⟨settings, k.backend.maxChunk w, now⟩ r) w
        (exchanged.2.host.ids.Distinct → k.Holds exchanged.2 m) ∧
        (ctx.Live → k.Holds exchanged.2 m ∧ exchanged.1.1.status = 409 ∧
          exchanged.1.1 = .ofFailure (.ofFsError (.alreadyExists request.path.text))) := by
  subst hw
  obtain ⟨m, hm, hunique⟩ :=
    after_unique k hreject requests ⟨{}, hstart.holds, Store.unique_empty settings⟩ hd
  refine ⟨m, hm, hunique.fileNames, hunique.names_eq ▸ hunique.bucketNames, ?_⟩
  intro r request hasks htaken ctx now exchanged
  have hfails := Gateway.dispatch_taken
    (g := ⟨settings, k.backend.maxChunk (after k.backend settings start requests), now⟩)
    k.faithful (k.faithful.inOrder hm hunique.labelled.labelled) hreject hunique htaken
  constructor
  · intro hd'
    obtain ⟨left, hheld, rfl⟩ := exchange_brings_nothing k.faithful.atomic hasks hfails hm hd'
    exact hheld
  · intro hlive
    obtain ⟨sent, hsees⟩ := exchange_sees_failure hasks hfails.live
    obtain ⟨hanswer, hheld, -⟩ := hsees hm hd hlive
    have hfirst : exchanged.1.1 = .ofFailure (.ofFsError (.alreadyExists request.path.text)) :=
      congrArg Prod.fst hanswer
    exact ⟨hheld, hfirst ▸ rfl, hfirst⟩

/-- A bucket is made and an object is put into it whose name reads as an identifier. -/
def conflictRequests : List (Context × Int × Request) :=
  [({}, 0, ⟨"POST", .resource "/fs/b".toList "op=Mkdir".toList, []⟩),
    ({}, 0, ⟨"PUT", .resource "/fs/b/00000000-0000-0000-0000-000000000009".toList [], [.ok [7]]⟩)]

/-- The place of an object of that name, with its bucket given by its identifier. -/
def conflictPlace : String :=
  "00000000-0000-0000-0000-000000000000/00000000-0000-0000-0000-000000000009"

/-- Another object is put there, with a body that breaks off. -/
def conflictPut : Request :=
  ⟨"PUT", .resource ("/fs/" ++ conflictPlace).toList [], [.error "gone"]⟩

theorem names_stay_unique_conflict :
    let path : FsPath := .object "00000000-0000-0000-0000-000000000000"
      "00000000-0000-0000-0000-000000000009"
    let w := after Memory.backend Session.refusing Session.emptyWorld conflictRequests
    let exchanged := Context.run {} Memory.backend
      (exchange ⟨Session.refusing, Memory.backend.maxChunk w, 0⟩ conflictPut) w
    Session.refusing.rejectDuplicates = true ∧ BackendKind.memory.Empty Session.emptyWorld ∧
      w.host.ids.Distinct ∧ conflictPut.Asks (.put path) ∧
      ∃ m, BackendKind.memory.Holds w m ∧ (∀ b ∈ m.buckets, b.fileNames.Nodup) ∧ m.names = ["b"] ∧
        m.Taken Session.refusing.owner (.put path) ∧ BackendKind.memory.Holds exchanged.2 m ∧
        exchanged.1.1.status = 409 := by
  intro path w exchanged
  have hstart : BackendKind.memory.Empty Session.emptyWorld := ⟨rfl, rfl, rfl⟩
  have hd : w.host.ids.Distinct :=
    IdSupply.distinct_of_counting (after_extends Memory.faithful _ _ _) rfl (by decide +kernel)
  have hentry : Route.ofPath? ("/fs/" ++ conflictPlace).toList =
      some (.entry conflictPlace.toList) := by decide +kernel
  have hreadable : Percent.text? conflictPlace.toList = some conflictPlace := by decide +kernel
  have hasks : conflictPut.Asks (.put path) :=
    .put ⟨rfl, _, _, rfl, hentry, hreadable⟩ (by decide +kernel)
  have hreject : Session.refusing.rejectDuplicates = true := rfl
  obtain ⟨m, hm, hfiles, -, hconflict⟩ :=
    names_stay_unique .memory hreject hstart conflictRequests rfl hd
  have hbuckets : m.buckets = w.store.buckets := hm.1.buckets.symm
  have htaken : m.Taken Session.refusing.owner (.put path) := by
    have hthere : (w.store.resolve Session.refusing.owner
        "00000000-0000-0000-0000-000000000000").any
          (·.fileNames.contains "00000000-0000-0000-0000-000000000009") = true := by decide +kernel
    obtain ⟨b, hb, hname⟩ := (Option.any_eq_true _ _).mp hthere
    refine ⟨b, ?_, by simpa using hname⟩
    rw [← hb]
    simp only [Store.resolve, Store.bucket?, hbuckets]
  have hnames : m.names = ["b"] := by
    rw [Store.names, hbuckets]
    decide +kernel
  obtain ⟨hheld, hstatus, -⟩ :=
    (hconflict conflictPut (.put path) hasks htaken {} 0).2 Context.live_default
  exact ⟨rfl, hstart, hd, hasks, m, hm, hfiles, hnames, htaken, hheld, hstatus⟩

end Http
end ObjectGateway
