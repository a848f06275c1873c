import Mathlib.Logic.Function.Iterate
import ObjectGateway.Proofs.Gateway.Lookup
/-!
# Removing one duplicate after another

Several objects of a bucket may have one name, and so may several buckets. Whoever removes
the name again and again takes them away one at a time, in the order in which they are
enumerated, until none is left; what comes up under the name in between is the next of them.
-/
namespace ObjectGateway

open Memory (Store StoredBucket StoredObject)
open Config (BackendKind)

-- ---------------------------------------------------------------------------
-- Without the first few of a kind
-- ---------------------------------------------------------------------------

section Lists

variable {α : Type} {p : α → Bool}

def withoutFirst (p : α → Bool) (count : Nat) (xs : List α) : List α :=
  (List.eraseP p)^[count] xs

theorem withoutFirst_succ (count : Nat) (xs : List α) :
    withoutFirst p (count + 1) xs = (withoutFirst p count xs).eraseP p :=
  Function.iterate_succ_apply' _ count xs

theorem withoutFirst_sublist (count : Nat) (xs : List α) : (withoutFirst p count xs).Sublist xs := by
  induction count with
  | zero => exact .refl xs
  | succ count ih =>
    rw [withoutFirst_succ]
    exact List.eraseP_sublist.trans ih

theorem filter_eraseP (xs : List α) : (xs.eraseP p).filter p = (xs.filter p).tail := by
  induction xs with
  | nil => rfl
  | cons x xs ih => by_cases hx : p x <;> simp [hx, ih]

/-- Of the kind that is removed, all but the first items are left. -/
theorem filter_withoutFirst (count : Nat) (xs : List α) :
    (withoutFirst p count xs).filter p = (xs.filter p).drop count := by
  induction count with
  | zero => rfl
  | succ count ih => rw [withoutFirst_succ, filter_eraseP, ih, List.tail_drop]

/-- The first one that is left is the next one there was. -/
theorem find?_withoutFirst (count : Nat) (xs : List α) :
    (withoutFirst p count xs).find? p = (xs.filter p)[count]? := by
  rw [← List.head?_filter, filter_withoutFirst, List.head?_drop]

end Lists

-- ---------------------------------------------------------------------------
-- Again and again
-- ---------------------------------------------------------------------------

variable {σ : Type} {b : Backend (World σ)} {holds : World σ → Store → Prop} {m : Store}
  {found : StoredBucket}

/-- What a live request finds out, it comes to. -/
theorem FsProgram.Reads.comesTo {α : Type} {p : FsProgram α} {r : Except FsError α} {w : World σ}
    {ctx : Context} (hp : Reads b holds m p r) (h : holds w m) (hd : w.host.ids.Distinct)
    (hlive : ctx.Live) : ComesTo holds w r m (ctx.run b p.run w) := by
  obtain ⟨hresult, hheld, hids⟩ := hp.live h hd hlive
  exact ⟨hresult, hheld, hids⟩

/-- What is held after each of the first `count` removals of a path; then there is nothing to
remove. -/
structure Peels (b : Backend (World σ)) (holds : World σ → Store → Prop) (settings : Settings)
    (path : FsPath) (count : Nat) (held : Nat → Store) : Prop where
  removes : ∀ {i} {w : World σ} {g : Gateway} {ctx : Context}, i < count → holds w (held i) →
    w.host.ids.Distinct → g.settings = settings → ctx.Live →
      ComesTo holds w (.ok ()) (held (i + 1)) (ctx.run b (g.remove path).run w)
  ends : ∀ {w : World σ} {g : Gateway} {ctx : Context}, holds w (held count) →
    w.host.ids.Distinct → g.settings = settings → ctx.Live →
      ComesTo holds w (.error (.notFound path.text)) (held count) (ctx.run b (g.remove path).run w)

namespace Session

/-- A live request to remove what a path names. -/
def Event.Removes (path : FsPath) : Event → Prop
  | .request ctx _ r => ctx.Live ∧ (r = .remove path ∨ r = .rmdir path)
  | _ => False

/-- What is answered when a path is removed again and again under which there are `count`
things. -/
def removals (path : FsPath) (count attempts : Nat) : List Outcome :=
  (List.range attempts).map fun i =>
    .answered (if i < count then .ok .done else .error (.notFound path.text))

variable {settings : Settings} {s : Session σ} {path : FsPath} {count : Nat} {held : Nat → Store}

theorem after_concat (b : Backend (World σ)) (settings : Settings) (s : Session σ)
    (events : List Event) (e : Event) : after b settings s (events ++ [e]) =
      let r := after b settings s events
      (r.1 ++ [(e, (r.2.step b settings e).1)], (r.2.step b settings e).2) := by
  simp [after]

/-- One removal more. -/
theorem step_removes (hpeels : Peels b holds settings path count held)
    (hwrite : settings.readOnly = false) {i : Nat} (h : holds s.world (held (min i count)))
    (hd : s.world.host.ids.Distinct) {e : Event} (he : e.Removes path) :
    (s.step b settings e).1 =
        .answered (if i < count then .ok .done else .error (.notFound path.text)) ∧
      holds (s.step b settings e).2.world (held (min (i + 1) count)) ∧
      (s.step b settings e).2.world.host.ids = s.world.host.ids := by
  cases e with
  | request ctx now request =>
    obtain ⟨hlive, hrequest⟩ := he
    let g := s.gateway b settings now
    have hdispatch {answer left}
        (h : ComesTo holds s.world answer left (ctx.run b (g.remove path).run s.world)) :
        ComesTo holds s.world (answer.map fun _ => .done) left
          (ctx.run b (g.dispatch request).run s.world) :=
      g.run_dispatch_remove request hrequest hwrite h
    simp only [step]
    by_cases hleft : i < count
    · rw [Nat.min_eq_left (Nat.le_of_lt hleft)] at h
      have hdone := hdispatch (hpeels.removes hleft h hd rfl hlive)
      rw [if_pos hleft, Nat.min_eq_left hleft]
      exact ⟨congrArg Outcome.answered hdone.answer, hdone.holds, hdone.ids⟩
    · have hcount : count ≤ i := Nat.not_lt.mp hleft
      rw [Nat.min_eq_right hcount] at h
      have hdone := hdispatch (hpeels.ends h hd rfl hlive)
      rw [if_neg hleft, Nat.min_eq_right (Nat.le_succ_of_le hcount)]
      exact ⟨congrArg Outcome.answered hdone.answer, hdone.holds, hdone.ids⟩
  | _ => exact he.elim

/-- Removals succeed as long as something is left, and each takes the next thing away. -/
theorem after_removals (hpeels : Peels b holds settings path count held)
    (hwrite : settings.readOnly = false) (h : holds s.world (held 0))
    (hd : s.world.host.ids.Distinct) {events : List Event} (hevents : ∀ e ∈ events, e.Removes path) :
    (after b settings s events).1.map Prod.snd = removals path count events.length ∧
      holds (after b settings s events).2.world (held (min events.length count)) ∧
      (after b settings s events).2.world.host.ids = s.world.host.ids := by
  induction events using List.reverseRecOn with
  | nil => exact ⟨rfl, by simpa [after] using h, rfl⟩
  | append_singleton events e ih =>
    obtain ⟨houtcomes, hheld, hids⟩ := ih fun e he => hevents e (List.mem_append_left _ he)
    have he : e.Removes path := hevents e (List.mem_append_right _ List.mem_cons_self)
    obtain ⟨hanswer, hheld', hids'⟩ := step_removes hpeels hwrite hheld (hids ▸ hd) he
    rw [after_concat]
    refine ⟨?_, ?_, hids'.trans hids⟩
    · simp only [List.map_append, houtcomes, hanswer, List.map_cons, List.map_nil, removals,
        List.length_append, List.length_singleton, List.range_succ]
    · rwa [List.length_append, List.length_singleton]

end Session

-- ---------------------------------------------------------------------------
-- Objects of one name
-- ---------------------------------------------------------------------------

namespace Memory

/-- Whether it is a top-level object that was stored with the name. -/
def StoredObject.rootNamed (n : String) (o : StoredObject) : Bool := o.parent.isNone && o.bears n

theorem StoredBucket.find?_roots (b : StoredBucket) (n : String) :
    (b.roots.find? fun o => o.bears n) = b.objects.find? (·.rootNamed n) := by
  rw [roots, List.find?_filter]
  congr 1
  funext o
  rw [Bool.eq_iff_iff]
  simp [StoredObject.rootNamed]

/-- A store in which the first `count` objects of a name are missing from a bucket. -/
def Store.peelObjects (m : Store) (bucket : BucketId) (n : String) (count : Nat) : Store :=
  m.onObjects bucket (withoutFirst (·.rootNamed n) count)

/-- A bucket is found as before, with fewer objects. -/
theorem Store.resolve_peelObjects {owner : OwnerId} {segment : String}
    (hresolve : m.resolve owner segment = some found) (n : String) (count : Nat) :
    (m.peelObjects found.info.id n count).resolve owner segment =
      some (found.onObjects (withoutFirst (·.rootNamed n) count)) := by
  rw [peelObjects, resolve_onObjects, hresolve, Option.map_some, if_pos rfl]

/-- Without the next object of the name one more is missing. -/
theorem Store.removeObject_peelObjects (hm : m.Apart) (hfound : found ∈ m.buckets) {n : String}
    {count : Nat} {o : StoredObject}
    (ho : (found.objects.filter (·.rootNamed n))[count]? = some o) :
    (m.peelObjects found.info.id n count).removeObject found.info.id o.info.id =
      m.peelObjects found.info.id n (count + 1) := by
  rw [removeObject, peelObjects, onObjects_onObjects, peelObjects]
  refine onObjects_congr fun b hb hid => ?_
  obtain rfl : b = found := List.inj_on_of_nodup_map hm.buckets hb hfound hid
  have hdistinct := ((withoutFirst_sublist (p := (·.rootNamed n)) count b.objects).map
    (·.info.id)).nodup (hm.objects b hb)
  rw [Function.comp_apply, withoutFirst_succ]
  exact filter_key_ne_of_find? hdistinct ((find?_withoutFirst count b.objects).trans ho)

end Memory

/-- Removals of a name take the objects of that name away, one after another. -/
theorem Gateway.peels_objects {settings : Settings} (hb : Faithful b holds) (hm : m.Apart)
    {segment : String} (hresolve : m.resolve settings.owner segment = some found) (n : String) :
    Peels b holds settings (.object segment n) (found.objects.filter (·.rootNamed n)).length
      (m.peelObjects found.info.id n) := by
  have hnext : ∀ count,
      ((found.onObjects (withoutFirst (·.rootNamed n) count)).roots.find? fun o => o.bears n) =
        (found.objects.filter (·.rootNamed n))[count]? := fun count =>
    (StoredBucket.find?_roots _ n).trans (find?_withoutFirst count found.objects)
  constructor
  case removes =>
    rintro i w g ctx hi h hd rfl hlive
    have ho : (found.objects.filter (·.rootNamed n))[i]? = some _ := List.getElem?_eq_getElem hi
    rw [← Store.removeObject_peelObjects hm (Store.mem_of_resolve hresolve) ho]
    -- The bucket keeps its identifier when objects are missing from it.
    have hremoved := g.run_remove_object hb h hd hlive (Store.resolve_peelObjects hresolve n i)
      ((hnext i).trans ho)
    exact hremoved
  case ends =>
    rintro w g ctx h hd rfl hlive
    have hnone : (found.objects.filter (·.rootNamed n))[
        (found.objects.filter (·.rootNamed n)).length]? = none :=
      List.getElem?_eq_none (Nat.le_refl _)
    exact (g.remove_object_reads hb (hb.healthy h) (hb.sound h).apart
      (Store.resolve_peelObjects hresolve n _) ((hnext _).trans hnone)).comesTo h hd hlive

/-- What is left is labelled as before. -/
theorem Memory.Store.Labelled.peelObjects (h : m.Labelled) (bucket : BucketId) (n : String)
    (count : Nat) : (m.peelObjects bucket n count).Labelled :=
  h.onObjects fun b hb _ o ho => h.objects b hb o ((withoutFirst_sublist count b.objects).subset ho)

/-- In between the next object is shown under the name. -/
theorem told_stat_peeled {k : BackendKind} {w : World k.Store} {ctx : Context} {g : Gateway}
    {segment n : String} {count : Nat} (hlabelled : m.Labelled)
    (hresolve : m.resolve g.settings.owner segment = some found)
    (hn : (Id.parse? n : Option ObjectId) = none)
    (h : k.Holds w (m.peelObjects found.info.id n count)) (hd : w.host.ids.Distinct)
    (hlive : ctx.Live) :
    ctx.told k.backend (g.dispatch (.stat (.object segment n))) w =
      (FsError.orNotFound (FsPath.object segment n).text
        (found.objects.filter (·.rootNamed n))[count]?).map fun o =>
          .entries [.object (g.objectEntry o)] := by
  have hleft := Store.resolve_peelObjects hresolve n count
  have hlabels := hlabelled.peelObjects found.info.id n count
  have hnames : ∀ o ∈ (found.onObjects (withoutFirst (·.rootNamed n) count)).roots,
      (o.name == n) = o.bears n := fun o ho =>
    (hlabels.bears_eq (Store.mem_of_resolve hleft) (List.mem_of_mem_filter ho) n).symm
  have hnext : (found.onObjects (withoutFirst (·.rootNamed n) count)).resolve n =
      (found.objects.filter (·.rootNamed n))[count]? := by
    rw [StoredBucket.resolve_of_name hn, List.find?_congr hnames, StoredBucket.find?_roots]
    exact find?_withoutFirst count found.objects
  rw [told_stat_object h hlabels hd hlive g hleft, hnext]

-- ---------------------------------------------------------------------------
-- Buckets of one name
-- ---------------------------------------------------------------------------

namespace Memory

/-- Whether it is a bucket of the owner that goes by the name. -/
def StoredBucket.ownNamed (owner : OwnerId) (n : String) (b : StoredBucket) : Bool :=
  b.info.owner == owner && b.name == n

/-- A store in which the first `count` buckets of a name are missing, with their objects. -/
def Store.peelBuckets (m : Store) (owner : OwnerId) (n : String) (count : Nat) : Store :=
  { m with buckets := withoutFirst (·.ownNamed owner n) count m.buckets }

variable {owner : OwnerId} {n : String} {count : Nat}

/-- The name leads to the next bucket that is left. -/
theorem Store.resolve_peelBuckets (hn : (Id.parse? n : Option BucketId) = none) :
    (m.peelBuckets owner n count).resolve owner n =
      (m.buckets.filter (·.ownNamed owner n))[count]? := by
  rw [resolve_of_name hn, List.find?_filter, ← find?_withoutFirst]
  congr 1
  funext b
  rw [Bool.eq_iff_iff]
  simp [StoredBucket.ownNamed]

/-- Without the next bucket of the name one more is missing. -/
theorem Store.removeBucket_peelBuckets (hm : m.Apart) {b : StoredBucket}
    (hb : (m.buckets.filter (·.ownNamed owner n))[count]? = some b) :
    (m.peelBuckets owner n count).removeBucket b.info.id = m.peelBuckets owner n (count + 1) := by
  have hdistinct := ((withoutFirst_sublist (p := (·.ownNamed owner n)) count m.buckets).map
    (·.info.id)).nodup hm.buckets
  have hremoved := filter_key_ne_of_find? hdistinct ((find?_withoutFirst count m.buckets).trans hb)
  simp only [removeBucket, peelBuckets, withoutFirst_succ, hremoved]

end Memory

/-- Removals of a name take the buckets of that name away, one after another. -/
theorem Gateway.peels_buckets {settings : Settings} (hb : Faithful b holds) (hm : m.Apart)
    {n : String} (hn : (Id.parse? n : Option BucketId) = none) :
    Peels b holds settings (.bucket n) (m.buckets.filter (·.ownNamed settings.owner n)).length
      (m.peelBuckets settings.owner n) := by
  constructor
  case removes =>
    rintro i w g ctx hi h hd rfl hlive
    have hnext := List.getElem?_eq_getElem hi
    rw [← Store.removeBucket_peelBuckets hm hnext]
    exact g.run_remove_bucket hb h hd hlive ((Store.resolve_peelBuckets hn).trans hnext)
  case ends =>
    rintro w g ctx h hd rfl hlive
    have hnone := List.getElem?_eq_none
      (Nat.le_refl (m.buckets.filter (·.ownNamed g.settings.owner n)).length)
    exact (g.remove_bucket_reads hb (hb.sound h).apart
      ((Store.resolve_peelBuckets hn).trans hnone)).comesTo h hd hlive

-- ---------------------------------------------------------------------------
-- Sessions
-- ---------------------------------------------------------------------------

namespace Session

/-- Names are removed from what is held one thing at a time, in the order of enumeration: the
objects of a name in a bucket, under any name, and the buckets of a name that is no
identifier. -/
structure RemovesInOrder (k : BackendKind) (settings : Settings) (s : Session k.Store)
    (m : Store) : Prop where
  holds : k.Holds s.world m
  objects : ∀ {segment found n events}, m.resolve settings.owner segment = some found →
    (∀ e ∈ events, Event.Removes (.object segment n) e) →
    let named := found.objects.filter (·.rootNamed n)
    let removed := min events.length named.length
    let r := after k.backend settings s events
    r.1.map Prod.snd = removals (.object segment n) named.length events.length ∧
      k.Holds r.2.world (m.peelObjects found.info.id n removed) ∧
      ((Id.parse? n : Option ObjectId) = none → ∀ (g : Gateway) (ctx : Context),
        g.settings = settings → ctx.Live →
          ctx.told k.backend (g.dispatch (.stat (.object segment n))) r.2.world =
            (FsError.orNotFound (FsPath.object segment n).text named[removed]?).map fun o =>
              .entries [.object (g.objectEntry o)])
  buckets : ∀ {n events}, (Id.parse? n : Option BucketId) = none →
    (∀ e ∈ events, Event.Removes (.bucket n) e) →
    let named := m.buckets.filter (·.ownNamed settings.owner n)
    let removed := min events.length named.length
    let r := after k.backend settings s events
    r.1.map Prod.snd = removals (.bucket n) named.length events.length ∧
      k.Holds r.2.world (m.peelBuckets settings.owner n removed)

variable {k : BackendKind} {settings : Settings} {start : World k.Store}
  {log : List (Event × Outcome)} {s : Session k.Store}

/-- Whatever steps a session has come through: removing a name again and again takes away
what goes by it, one thing at a time, in the order of enumeration, and nothing else; it
succeeds as often as there is something to take away. -/
theorem removal_in_order (hstart : k.Empty start) (hrun : Run k.backend settings ⟨start, []⟩ log s)
    (hd : s.world.host.ids.Distinct) (hwrite : settings.readOnly = false) :
    ∃ m, RemovesInOrder k settings s m := by
  have hb := k.faithful
  obtain ⟨m, hm, hnames⟩ := hrun.labelledBy (P := fun _ => True) hb hstart.holds
    (fun e _ => e.names_true) hd
  have hapart := (hb.sound hm).apart
  refine ⟨m, hm, ?_, ?_⟩
  · intro segment found n events hresolve hevents named removed r
    have hnone : m.peelObjects found.info.id n 0 = m := m.onObjects_self found.info.id
    obtain ⟨houtcomes, hleft, hids⟩ := after_removals
      (Gateway.peels_objects hb hapart hresolve n) hwrite (hnone.symm ▸ hm) hd hevents
    refine ⟨houtcomes, hleft, ?_⟩
    rintro hn g ctx rfl hlive
    exact told_stat_peeled hnames.labelled hresolve hn hleft (hids ▸ hd) hlive
  · intro n events hn hevents named removed r
    obtain ⟨houtcomes, hleft, -⟩ := after_removals
      (Gateway.peels_buckets (m := m) hb hapart hn) hwrite hm hd hevents
    exact ⟨houtcomes, hleft⟩

/-- Two objects of one name are stored in a bucket. -/
def twinEvents : List Event :=
  [.request {} 0 (.mkdir (.bucket "b")), .request {} 0 (.put (.object "b" "f")),
    .request {} 0 (.put (.object "b" "f")), .write 1 [7] 0, .close {} 0 0, .close {} 0 1]

def twinSession : Session Memory.Store :=
  (after Memory.backend {} ⟨emptyWorld, []⟩ twinEvents).2

/-- One removal leaves the second object under the name, two leave none, and a third one
fails. -/
theorem removal_in_order_twins :
    BackendKind.memory.Empty emptyWorld ∧ twinSession.world.host.ids.Distinct ∧
      let remove : Event := .request {} 0 (.remove (.object "b" "f"))
      (after Memory.backend {} twinSession [remove, remove, remove]).1.map Prod.snd =
        removals (.object "b" "f") 2 3 ∧
      Context.told {} Memory.backend ((⟨{}, 1, 0⟩ : Gateway).dispatch (.stat (.object "b" "f")))
        (after Memory.backend {} twinSession [remove]).2.world =
          .ok (.entries [.object ⟨⟨0⟩, ⟨2⟩, "f", none, 1, 0⟩]) := by
  have hstart : BackendKind.memory.Empty emptyWorld := ⟨rfl, rfl, rfl⟩
  have hrun : Run Memory.backend {} ⟨emptyWorld, []⟩ _ twinSession :=
    run_after Memory.backend {} ⟨emptyWorld, []⟩ twinEvents
  have hd : twinSession.world.host.ids.Distinct := hrun.distinct_of_few (by decide +kernel)
  obtain ⟨m, hm⟩ := removal_in_order (k := .memory) hstart hrun hd rfl
  -- The session and the store that is held have the same buckets.
  have hbuckets : twinSession.world.store.buckets = m.buckets := hm.holds.1.buckets
  let twin (id : ObjectId) (payload : Bytes) : StoredObject := .ofHeader id
    { bucket := ⟨0⟩, owner := Id.nil, attributes := .named Attributes.fileNameKey "f" 0 } payload
  let found : StoredBucket := ⟨⟨⟨0⟩, Id.nil, defaultPolicy, .restricted,
    .named Attributes.nameKey "b" 0⟩, [twin ⟨1⟩ [], twin ⟨2⟩ [7]]⟩
  have hresolve : m.resolve Id.nil "b" = some found := by
    have hstored : twinSession.world.store.resolve Id.nil "b" = some found := by decide +kernel
    simpa only [Store.resolve, Store.bucket?, hbuckets] using hstored
  have hremoves : ∀ attempts, ∀ e ∈ List.replicate attempts
      (Event.request {} 0 (.remove (.object "b" "f"))), e.Removes (.object "b" "f") := by
    intro attempts e he
    obtain rfl := List.eq_of_mem_replicate he
    exact ⟨Context.live_default, .inl rfl⟩
  obtain ⟨hthrice, -⟩ := hm.objects hresolve (hremoves 3)
  obtain ⟨-, -, hnext⟩ := hm.objects hresolve (hremoves 1)
  exact ⟨hstart, hd, hthrice, hnext (by decide +kernel) ⟨{}, 1, 0⟩ {} rfl Context.live_default⟩

end Session
end ObjectGateway
