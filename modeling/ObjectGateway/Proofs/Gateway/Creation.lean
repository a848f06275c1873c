import ObjectGateway.Proofs.Gateway.Lookup
/-!
# What was created is found

A bucket or an object is created under a display name, and a name that is no identifier is
resolved to the first thing of that name. A segment that reads as an identifier is resolved
to the thing of that identifier and to nothing else, so what was given such a name is not
found under it.
-/
namespace ObjectGateway

open Memory (Store StoredBucket StoredObject)
open Config (BackendKind)

variable {m left : Store} {found b : StoredBucket} {o : StoredObject} {n : String}

/-! ## After a creation -/

/-- A name leads to a bucket of that name once there is one. -/
theorem Memory.Store.GainsBucket.resolve (h : m.GainsBucket b left)
    (hn : (Id.parse? b.name : Option BucketId) = none) :
    ∃ b', left.resolve b.info.owner b.name = some b' ∧ b'.name = b.name := by
  have hsome : (left.resolve b.info.owner b.name).isSome := by
    rw [Store.resolve_of_name hn, List.find?_isSome]
    refine ⟨b, ?_, beq_self_eq_true b.name⟩
    rw [h]
    simp
  obtain ⟨b', hb'⟩ := Option.isSome_iff_exists.mp hsome
  refine ⟨b', hb', ?_⟩
  rw [Store.resolve_of_name hn] at hb'
  simpa using List.find?_some hb'

theorem Gateway.newBucket_name (g : Gateway) (id : BucketId) (name : String) :
    (g.newBucket id name).name = name := by
  simp [StoredBucket.name, newBucket, Attributes.get?_named Attributes.nameKey_ne]

/-- A name leads to an object of that name once there is one. -/
theorem Memory.StoredBucket.resolve_add (found : StoredBucket) (hroot : o.parent = none)
    (hn : (Id.parse? o.name : Option ObjectId) = none) :
    ∃ o', (found.add o).resolve o.name = some o' ∧ o'.name = o.name := by
  refine ⟨_, found.resolve_add_name hroot hn, ?_⟩
  cases hfind : found.roots.find? fun o' => o'.name == o.name with
  | none => rfl
  | some o' => simpa using List.find?_some hfind

/-- An identifier leads to the bucket that has it. -/
theorem Memory.Store.resolve_of_id {owner : OwnerId} {id : BucketId} (hid : Id.parse? n = some id) :
    m.resolve owner n = m.bucket? id := by
  rw [Store.resolve, hid]

theorem Memory.StoredBucket.resolve_of_id {id : ObjectId} (hid : Id.parse? n = some id) :
    found.resolve n = found.find? id := by
  rw [StoredBucket.resolve, hid]

/-! ## What is told afterwards -/

variable {k : BackendKind} {settings : Settings} {w : World k.Store}

/-- A live request for the status of a path is told of one entry, which is of the kind `P`. -/
def Shows (k : BackendKind) (settings : Settings) (w : World k.Store) (path : FsPath)
    (P : Entry → Prop) : Prop :=
  ∀ (g : Gateway) (ctx : Context), g.settings = settings → ctx.Live →
    ∃ entry, ctx.told k.backend (g.dispatch (.stat path)) w = .ok (.entries [entry]) ∧ P entry

/-- A live request for the status of a path is told of an entry of the kind `P`, or fails. -/
def ShowsOnly (k : BackendKind) (settings : Settings) (w : World k.Store) (path : FsPath)
    (P : Entry → Prop) : Prop :=
  ∀ (g : Gateway) (ctx : Context) response, g.settings = settings → ctx.Live →
    ctx.told k.backend (g.dispatch (.stat path)) w = .ok response →
    ∃ entry, response = .entries [entry] ∧ P entry

def Entry.IsBucket (id : BucketId) : Entry → Prop
  | .bucket b => b.id = some id
  | .object _ => False

def Entry.IsObject (id : ObjectId) : Entry → Prop
  | .bucket _ => False
  | .object o => o.id = id

theorem shows_bucket (h : k.Holds w m) (hlabelled : m.Labelled) (hd : w.host.ids.Distinct)
    (hresolve : m.resolve settings.owner n = some b) (hname : b.name = n) :
    Shows k settings w (.bucket n) fun entry => entry.isDir = true ∧ entry.name = n := by
  rintro g ctx rfl hlive
  refine ⟨.bucket (g.bucketEntry b), ?_, rfl, hname⟩
  rw [told_stat_bucket h hlabelled hd hlive, hresolve]
  rfl

theorem shows_object (h : k.Holds w m) (hlabelled : m.Labelled) (hd : w.host.ids.Distinct)
    {segment : String} (hresolve : m.resolve settings.owner segment = some found)
    (ho : found.resolve n = some o) (hname : o.name = n) :
    Shows k settings w (.object segment n) fun entry => entry.isDir = false ∧ entry.name = n := by
  rintro g ctx rfl hlive
  refine ⟨.object (g.objectEntry o), ?_, rfl, hname⟩
  rw [told_stat_object h hlabelled hd hlive g hresolve, ho]
  rfl

/-- An identifier shows the bucket that has it. -/
theorem showsOnly_bucket (h : k.Holds w m) (hlabelled : m.Labelled) (hd : w.host.ids.Distinct)
    {id : BucketId} (hid : Id.parse? n = some id) :
    ShowsOnly k settings w (.bucket n) (Entry.IsBucket id) := by
  rintro g ctx response rfl hlive hstat
  rw [told_stat_bucket h hlabelled hd hlive, Store.resolve_of_id hid] at hstat
  cases hfind : m.bucket? id with
  | none =>
    rw [hfind] at hstat
    cases hstat
  | some b =>
    rw [hfind] at hstat
    obtain ⟨-, hsame⟩ := Store.bucket?_eq_some hfind
    exact ⟨_, (Except.ok.inj hstat).symm, congrArg some hsame⟩

/-- An identifier shows the object that has it. -/
theorem showsOnly_object (h : k.Holds w m) (hlabelled : m.Labelled) (hd : w.host.ids.Distinct)
    {segment : String} (hresolve : m.resolve settings.owner segment = some found) {id : ObjectId}
    (hid : Id.parse? n = some id) :
    ShowsOnly k settings w (.object segment n) (Entry.IsObject id) := by
  rintro g ctx response rfl hlive hstat
  rw [told_stat_object h hlabelled hd hlive g hresolve, StoredBucket.resolve_of_id hid] at hstat
  cases hfind : found.find? id with
  | none =>
    rw [hfind] at hstat
    cases hstat
  | some o =>
    rw [hfind] at hstat
    obtain ⟨-, hsame⟩ := StoredBucket.find?_eq_some hfind
    exact ⟨_, (Except.ok.inj hstat).symm, hsame⟩

namespace Session

/-- A writer that is handed out by a put and closed later has stored an object in the bucket
that the segment leads to. -/
theorem put_close_receives {start : World k.Store} {s₀ s₁ s s' : Session k.Store}
    {log log' : List (Event × Outcome)} {ctx₀ ctx : Context} {now₀ now : Int} {segment : String}
    {writer : Writer} {id : ObjectId} (hstart : k.Empty start)
    (hrun : Run k.backend settings ⟨start, []⟩ log s₀)
    (hput : s₀.step k.backend settings (.request ctx₀ now₀ (.put (.object segment n))) =
      (.answered (.ok (.writer writer)), s₁))
    (hlater : Run k.backend settings s₁ log' s)
    (hclose : s.step k.backend settings (.close ctx now s₀.writers.length) =
      (.closed (.ok id), s'))
    (hd : s'.world.host.ids.Distinct) :
    ∃ (m : Store) (found : StoredBucket) (o : StoredObject), m.Labelled ∧
      m.Receives settings.owner segment n found o ∧ k.Holds s'.world (m.addObject o) := by
  have hb := k.faithful
  have hids₀ : (s₀.step k.backend settings _).2.world.host.ids.Extends s₀.world.host.ids :=
    step_extends hb s₀ (.request ctx₀ now₀ (.put (.object segment n)))
  have hids : (s.step k.backend settings _).2.world.host.ids.Extends s.world.host.ids :=
    step_extends hb s (.close ctx now s₀.writers.length)
  rw [hput] at hids₀
  rw [hclose] at hids
  have hd_s : s.world.host.ids.Distinct := hd.of_extends hids
  have hd₁ : s₁.world.host.ids.Distinct := hd_s.of_extends (hlater.extends_start hb)
  obtain ⟨m₀, hm₀, hnames₀⟩ := hrun.labelledBy (P := fun _ => True) hb hstart.holds
    (fun e _ => e.names_true) (hd₁.of_extends hids₀)
  obtain ⟨hm₁, hleads₁, hwriter₁, rfl, -⟩ := step_put hb hm₀ hnames₀.labelled hput hd₁
  -- The bucket is still there when the writer is closed, so the segment still leads to it.
  obtain ⟨m, hm, hlabelled, hleads⟩ := hlater.keeps hb
    ((Memory.keeps_labelled settings).and
      (Memory.keeps_leads _ settings.owner segment writer.bucket))
    ⟨m₀, hm₁, hnames₀.labelled, hleads₁⟩ hd_s
  cases hwriter : s.writer? s₀.writers.length with
  | none => simp [step, hwriter] at hclose
  | some writer' =>
    obtain rfl := hlater.writer_eq hwriter₁ hwriter
    obtain ⟨hbucket, hm', hfresh⟩ := step_close_ok hb hm hwriter hclose hd
    obtain ⟨found, hfound⟩ := Option.isSome_iff_exists.mp hbucket
    obtain ⟨-, hid⟩ := Store.bucket?_eq_some hfound
    exact ⟨m, found, _, hlabelled,
      { resolved := hleads.resolved found hfound
        bucket := hid.symm
        root := rfl
        label := ⟨now, rfl⟩
        fresh := hfresh }, hm'⟩

/-- Whatever steps a session has come through: a bucket that was made, and an object whose
writer was closed, are shown under their name at once, unless the name reads as an
identifier. Under such a name at most the bucket or the object of that identifier is shown. -/
theorem created_is_found {start : World k.Store} {s : Session k.Store}
    {log : List (Event × Outcome)} (hstart : k.Empty start)
    (hrun : Run k.backend settings ⟨start, []⟩ log s) :
    (∀ ctx now n s', s.step k.backend settings (.request ctx now (.mkdir (.bucket n))) =
        (.answered (.ok .done), s') → s'.world.host.ids.Distinct →
      ((Id.parse? n : Option BucketId) = none →
        Shows k settings s'.world (.bucket n) fun entry => entry.isDir = true ∧ entry.name = n) ∧
      ∀ id, Id.parse? n = some id →
        ShowsOnly k settings s'.world (.bucket n) (Entry.IsBucket id)) ∧
    ∀ ctx₀ now₀ segment n writer s₁ log' s₂ ctx now id s',
      s.step k.backend settings (.request ctx₀ now₀ (.put (.object segment n))) =
        (.answered (.ok (.writer writer)), s₁) →
      Run k.backend settings s₁ log' s₂ →
      s₂.step k.backend settings (.close ctx now s.writers.length) = (.closed (.ok id), s') →
      s'.world.host.ids.Distinct →
      ((Id.parse? n : Option ObjectId) = none →
        Shows k settings s'.world (.object segment n) fun entry =>
          entry.isDir = false ∧ entry.name = n) ∧
      ∀ id', Id.parse? n = some id' →
        ShowsOnly k settings s'.world (.object segment n) (Entry.IsObject id') := by
  have hb := k.faithful
  constructor
  · intro ctx now n s' hstep hd
    have hids : (s.step k.backend settings _).2.world.host.ids.Extends s.world.host.ids :=
      step_extends hb s (.request ctx now (.mkdir (.bucket n)))
    rw [hstep] at hids
    obtain ⟨m, hm, hnames⟩ := hrun.labelledBy (P := fun _ => True) hb hstart.holds
      (fun e _ => e.names_true) (hd.of_extends hids)
    obtain ⟨left, hleft, heffect⟩ := (step_request hb hm hstep hd).2 _ rfl
    have hlabelled := (heffect.labelledBy (P := fun _ => True) trivial hnames).labelled
    refine ⟨fun hn => ?_, fun id hid => showsOnly_bucket hleft hlabelled hd hid⟩
    cases heffect.leaves with
    | @bucket _ id _ hgains =>
      have hname := (s.gateway k.backend settings now).newBucket_name id n
      obtain ⟨b, hresolve, hfound⟩ := hgains.resolve (hname.symm ▸ hn)
      rw [hname] at hresolve hfound
      exact shows_bucket hleft hlabelled hd hresolve hfound
  · intro ctx₀ now₀ segment n writer s₁ log' s₂ ctx now id s' hput hlater hclose hd
    obtain ⟨m, found, o, hlabelled, hreceives, hheld⟩ :=
      put_close_receives hstart hrun hput hlater hclose hd
    have hlabelled' : (m.addObject o).Labelled :=
      hlabelled.addObject hreceives.root ⟨n, hreceives.label⟩
    have hresolve := hreceives.resolve_addObject
    refine ⟨fun hn => ?_, fun id' hid => showsOnly_object hheld hlabelled' hd hresolve hid⟩
    obtain rfl := hreceives.name_eq
    obtain ⟨o', ho', hname⟩ := StoredBucket.resolve_add found hreceives.root hn
    exact shows_object hheld hlabelled' hd hresolve ho' hname

theorem created_is_found_gap :
    BackendKind.memory.Empty emptyWorld ∧ gapClosed.2.world.host.ids.Distinct ∧
      (Id.parse? "b" : Option BucketId) = none ∧ (Id.parse? "f" : Option ObjectId) = none ∧
      Shows .memory {} bucketSession.world (.bucket "b")
        (fun entry => entry.isDir = true ∧ entry.name = "b") ∧
      Shows .memory {} gapClosed.2.world (.object "b" "f")
        (fun entry => entry.isDir = false ∧ entry.name = "f") := by
  have hstart : BackendKind.memory.Empty emptyWorld := ⟨rfl, rfl, rfl⟩
  have hd : gapClosed.2.world.host.ids.Distinct :=
    ((run_after Memory.backend {} ⟨emptyWorld, []⟩ gapEvents).step (.close {} 0 0)).distinct_of_few
      (by decide +kernel)
  have hfirst : Run Memory.backend {} ⟨emptyWorld, []⟩ _ bucketSession :=
    run_after _ _ _ (gapEvents.take 1)
  have hd₁ : bucketSession.world.host.ids.Distinct :=
    hfirst.distinct_of_few (by decide +kernel)
  have hmade : step Memory.backend {} ⟨emptyWorld, []⟩ (.request {} 0 (.mkdir (.bucket "b"))) =
      (.answered (.ok .done), bucketSession) :=
    congrArg (Outcome.answered ·, bucketSession) (by decide +kernel)
  have hput : bucketSession.step Memory.backend {} (.request {} 0 (.put (.object "b" "f"))) =
      (.answered (.ok (.writer { bucket := ⟨0⟩, name := "f", path := "/b/f" })), putSession) :=
    congrArg (Outcome.answered ·, putSession) (by decide +kernel)
  have hlater : Run Memory.backend {} putSession _ gapSession :=
    run_after _ _ _ (gapEvents.drop 2)
  have hwriter : gapSession.writer? 0 =
      some { bucket := ⟨0⟩, name := "f", path := "/b/f", staging := ⟨[(3, [1, 2])]⟩ } := by
    decide +kernel
  have hanswer : gapClosed.1 = .closed (.ok ⟨1⟩) := by
    rw [gapClosed, step_close hwriter]
    exact congrArg Outcome.closed (by decide +kernel)
  have hclose : gapSession.step Memory.backend {} (.close {} 0 0) =
      (.closed (.ok ⟨1⟩), gapClosed.2) := Prod.ext hanswer rfl
  have hbucket : (Id.parse? "b" : Option BucketId) = none := by decide +kernel
  have hobject : (Id.parse? "f" : Option ObjectId) = none := by decide +kernel
  have hnothing : Run Memory.backend {} ⟨emptyWorld, []⟩ [] ⟨emptyWorld, []⟩ := .start
  obtain ⟨hbuckets, -⟩ := created_is_found (k := .memory) hstart hnothing
  obtain ⟨-, hobjects⟩ := created_is_found (k := .memory) hstart hfirst
  exact ⟨hstart, hd, hbucket, hobject, (hbuckets {} 0 "b" _ hmade hd₁).1 hbucket,
    (hobjects {} 0 "b" "f" _ _ _ _ {} 0 _ _ hput hlater hclose hd).1 hobject⟩

/-- A name that reads as an identifier. -/
def identifierName : String := "ffffffffffffffffffffffffffffffff"

/-- A bucket of that name is made. -/
def identifierMade : Outcome × Session Memory.Store :=
  step Memory.backend {} ⟨emptyWorld, []⟩ (.request {} 0 (.mkdir (.bucket identifierName)))

/-- An object of that name is put into another bucket. -/
def identifierPut : Outcome × Session Memory.Store :=
  bucketSession.step Memory.backend {} (.request {} 0 (.put (.object "b" identifierName)))

def identifierClosed : Outcome × Session Memory.Store :=
  identifierPut.2.step Memory.backend {} (.close {} 0 0)

/-- Neither that bucket nor that object is found under its path. -/
theorem created_under_identifier_not_found :
    identifierMade.1 = .answered (.ok .done) ∧
      Context.told {} Memory.backend (Gateway.dispatch ⟨{}, 1, 0⟩
        (.stat (.bucket identifierName))) identifierMade.2.world =
          .error (.notFound ("/" ++ identifierName)) ∧
      identifierPut.1 = .answered (.ok (.writer
        { bucket := ⟨0⟩, name := identifierName, path := "/b/" ++ identifierName })) ∧
      identifierClosed.1 = .closed (.ok ⟨1⟩) ∧
      Context.told {} Memory.backend (Gateway.dispatch ⟨{}, 1, 0⟩
        (.stat (.object "b" identifierName))) identifierClosed.2.world =
          .error (.notFound ("/b/" ++ identifierName)) := by
  have hwriter : identifierPut.2.writer? 0 = some
      { bucket := ⟨0⟩, name := identifierName, path := "/b/" ++ identifierName } := by
    decide +kernel
  have hclosed : identifierClosed.1 = .closed (.ok ⟨1⟩) := by
    rw [identifierClosed, step_close hwriter]
    exact congrArg Outcome.closed (by decide +kernel)
  refine ⟨congrArg Outcome.answered (by decide +kernel), by decide +kernel,
    congrArg Outcome.answered (by decide +kernel), hclosed, by decide +kernel⟩

end Session
end ObjectGateway
