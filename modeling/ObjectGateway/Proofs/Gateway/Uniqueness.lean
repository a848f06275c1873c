import ObjectGateway.Proofs.Gateway.Transitions
/-!
# Names that are taken once

When duplicates are refused, a name is looked for before a bucket is made and before a
writer is opened. The bucket is made at once, so no name is given to two buckets. A writer
stores its object only when it is closed: two that are open for one name both store one. As
long as there is never more than one open writer for a place, no name is given to two
objects of a bucket.
-/
namespace ObjectGateway

open Memory (Store StoredBucket StoredObject)
open Config (BackendKind)

-- ---------------------------------------------------------------------------
-- The names that are taken
-- ---------------------------------------------------------------------------

namespace Memory

def StoredBucket.fileNames (b : StoredBucket) : List String :=
  b.roots.filterMap fun o => o.info.attributes.get? Attributes.fileNameKey

def Store.bucketNames (owner : OwnerId) (m : Store) : List String :=
  (m.buckets.filter fun b => b.info.owner == owner).filterMap fun b =>
    b.info.attributes.get? Attributes.nameKey

def Store.FileNamesDiffer (m : Store) : Prop :=
  ∀ b ∈ m.buckets, b.fileNames.Nodup

variable {m left : Store} {b : StoredBucket} {o : StoredObject} {objects : List StoredObject}
  {owner : OwnerId} {n : String}

/-- The last value of a key is among its values. -/
theorem mem_pairs_of_get? {a : Attributes} {key : String} (h : a.get? key = some n) :
    (key, n) ∈ a.pairs := by
  obtain ⟨pair, hfind, rfl⟩ := Option.map_eq_some_iff.mp h
  have hkey : pair.1 = key := by simpa using List.find?_some hfind
  have hmem := List.mem_of_find?_eq_some hfind
  rw [← hkey]
  exact List.mem_reverse.mp hmem

/-- A name that is not found is not taken. -/
theorem StoredBucket.notMem_fileNames (h : b.named? n = none) : n ∉ b.fileNames := by
  intro hmem
  obtain ⟨o, ho, hname⟩ := List.mem_filterMap.mp hmem
  obtain ⟨ho, hroot⟩ := List.mem_filter.mp ho
  apply List.find?_eq_none.mp h o ho
  have hpair := mem_pairs_of_get? hname
  simp [StoredObject.satisfies, hroot, hpair]

/-- A file name more, and that of the new object. -/
theorem StoredBucket.fileNames_append (hroot : o.parent = none)
    (hname : o.info.attributes.get? Attributes.fileNameKey = some n) :
    StoredBucket.fileNames { b with objects := b.objects ++ [o] } = b.fileNames ++ [n] := by
  simp [fileNames, roots, hroot, hname]

theorem StoredBucket.fileNames_sublist (h : objects.Sublist b.objects) :
    (StoredBucket.fileNames { b with objects }).Sublist b.fileNames :=
  (h.filter _).filterMap _

/-! ## After a change -/

theorem Store.GainsBucket.bucketNames (h : m.GainsBucket b left) :
    left.bucketNames owner = m.bucketNames owner ++
      ([b].filter fun b => b.info.owner == owner).filterMap fun b =>
        b.info.attributes.get? Attributes.nameKey := by
  rw [Store.bucketNames, h, List.filter_append, List.filterMap_append]
  rfl

theorem Store.LosesBucket.bucketNames (h : m.LosesBucket b left) :
    (left.bucketNames owner).Sublist (m.bucketNames owner) :=
  (h.sublist.filter _).filterMap _

/-- Changes of objects leave the names of buckets as they are. -/
theorem Store.Refills.bucketNames (h : m.Refills b objects left) :
    left.bucketNames owner = m.bucketNames owner := by
  obtain ⟨front, back, hsplit, hleft⟩ := h
  simp only [Store.bucketNames, hsplit, hleft, List.filter_append, List.filter_cons,
    List.filterMap_append]
  split
  · simp only [List.filterMap_cons]
  · rfl

/-- Every bucket that is left is one without objects, or one that was there, with no new
file names. -/
def Store.Narrows (m left : Store) : Prop :=
  ∀ b' ∈ left.buckets, b'.fileNames = [] ∨
    ∃ b ∈ m.buckets, b.info.id = b'.info.id ∧ b'.fileNames.Sublist b.fileNames

theorem Store.narrows_refl (m : Store) : m.Narrows m :=
  fun b hb => .inr ⟨b, hb, rfl, .refl _⟩

theorem Store.Narrows.fileNamesDiffer (h : m.Narrows left) (hm : m.FileNamesDiffer) :
    left.FileNamesDiffer := by
  intro b' hb'
  obtain hempty | ⟨b, hb, -, hsub⟩ := h b' hb'
  · rw [hempty]
    exact List.nodup_nil
  · exact hsub.nodup (hm b hb)

theorem Store.GainsBucket.narrows (h : m.GainsBucket b left) (hempty : b.objects = []) :
    m.Narrows left := by
  intro b' hb'
  obtain hold | rfl := h.cases hb'
  · exact .inr ⟨b', hold, rfl, .refl _⟩
  · exact .inl (by simp [StoredBucket.fileNames, StoredBucket.roots, hempty])

theorem Store.LosesBucket.narrows (h : m.LosesBucket b left) : m.Narrows left :=
  fun b' hb' => .inr ⟨b', h.sublist.subset hb', rfl, .refl _⟩

theorem Store.LosesObject.narrows (h : m.LosesObject b o left) : m.Narrows left := by
  obtain ⟨front, back, hsplit, hrefills⟩ := h
  intro b' hb'
  obtain hold | rfl := hrefills.cases hb'
  · exact .inr ⟨b', hold, rfl, .refl _⟩
  · refine .inr ⟨b, hrefills.mem, rfl, StoredBucket.fileNames_sublist ?_⟩
    rw [hsplit]
    exact (List.sublist_cons_self o back).append_left front

end Memory

-- ---------------------------------------------------------------------------
-- Steps
-- ---------------------------------------------------------------------------

variable {σ : Type} {m left : Store} {settings : Settings}

/-- No request gives a file name to an object. -/
theorem Gateway.Effect.narrows {g : Gateway} {request : Request} {response : Response}
    (h : g.Effect m request response left) : m.Narrows left := by
  have hleaves := h.leaves
  cases request with
  | mkdir path =>
    obtain ⟨-, hgains⟩ := hleaves
    exact hgains.narrows rfl
  | remove path | rmdir path =>
    cases hleaves with
    | object _ _ hloses => exact hloses.narrows
    | bucket _ hloses => exact hloses.narrows
  | _ =>
    obtain rfl := hleaves
    exact Store.narrows_refl _

/-- No request gives a name to a second bucket of the owner. -/
theorem Gateway.Effect.bucketNames {g : Gateway} {request : Request} {response : Response}
    (h : g.Effect m request response left) (hreject : g.settings.rejectDuplicates = true)
    (hm : (m.bucketNames g.settings.owner).Nodup) :
    (left.bucketNames g.settings.owner).Nodup := by
  have hleaves := h.leaves
  cases request with
  | mkdir path =>
    cases hleaves with
    | @bucket name id hfree hgains =>
      have hnew : name ∉ m.bucketNames g.settings.owner := by
        intro hmem
        obtain ⟨b, hb, hname⟩ := List.mem_filterMap.mp hmem
        obtain ⟨hb, howner⟩ := List.mem_filter.mp hb
        apply hfree hreject b hb (beq_iff_eq.mp howner)
        simp [StoredBucket.name, hname]
      have hadded : left.bucketNames g.settings.owner = m.bucketNames g.settings.owner ++ [name] := by
        rw [hgains.bucketNames]
        simp [Gateway.newBucket, Attributes.get?_named Attributes.nameKey_ne]
      rw [hadded, ← List.concat_eq_append]
      exact hm.concat hnew
  | remove path | rmdir path =>
    cases hleaves with
    | object _ _ hloses =>
      obtain ⟨_, _, -, hrefills⟩ := hloses
      rw [hrefills.bucketNames]
      exact hm
    | bucket _ hloses => exact hloses.bucketNames.nodup hm
  | _ =>
    obtain rfl := hleaves
    exact hm

/-- A writer is opened on a name that is not taken. -/
theorem Gateway.Opens.notMem_fileNames {g : Gateway} {path : FsPath} {w : Writer}
    (h : g.Opens m path w) (hm : m.Apart) (hreject : g.settings.rejectDuplicates = true)
    {b : StoredBucket} (hb : b ∈ m.buckets) (hid : b.info.id = w.bucket) :
    w.name ∉ b.fileNames := by
  cases h with
  | @object segment name found hresolve hfree =>
    have hfound := hm.bucket?_of_mem (Store.mem_of_resolve hresolve)
    change b.info.id = found.info.id at hid
    rw [← hid, hm.bucket?_of_mem hb] at hfound
    obtain rfl := Option.some.inj hfound
    exact StoredBucket.notMem_fileNames (hfree hreject)

namespace Writer.Stores

variable {g : Gateway} {writer : Writer} {id : ObjectId}

/-- A bucket that is left was there before, or it is the one that the object has been added to:
the name of the writer is its last one. -/
theorem fileNames (h : writer.Stores g m id left) {b' : StoredBucket} (hb' : b' ∈ left.buckets) :
    b' ∈ m.buckets ∨ ∃ b ∈ m.buckets, b.info.id = writer.bucket ∧ b'.info.id = writer.bucket ∧
      b'.fileNames = b.fileNames ++ [writer.name] := by
  obtain ⟨-, found, hbucket, hgains⟩ := h
  obtain ⟨hmem, hid⟩ := Store.bucket?_eq_some hbucket
  obtain hold | rfl := Store.Refills.cases hgains hb'
  · exact .inl hold
  · refine .inr ⟨found, hmem, hid, hid, ?_⟩
    exact StoredBucket.fileNames_append rfl
      (Attributes.get?_named Attributes.fileNameKey_ne writer.name g.now)

/-- A name that is not taken can be given. -/
theorem fileNamesDiffer (h : writer.Stores g m id left) (hm : m.FileNamesDiffer)
    (hfree : ∀ b ∈ m.buckets, b.info.id = writer.bucket → writer.name ∉ b.fileNames) :
    left.FileNamesDiffer := by
  intro b' hb'
  obtain hold | ⟨b, hb, hid, -, hnames⟩ := h.fileNames hb'
  · exact hm b' hold
  · rw [hnames, ← List.concat_eq_append]
    exact (hm b hb).concat (hfree b hb hid)

theorem bucketNames (h : writer.Stores g m id left) (owner : OwnerId) :
    left.bucketNames owner = m.bucketNames owner := by
  obtain ⟨-, found, -, hgains⟩ := h
  exact Store.Refills.bucketNames hgains

end Writer.Stores

namespace Session

/-- No two open writers go to one place. -/
def OneEach (writers : List (Option Writer)) : Prop :=
  ∀ (i j : Nat) (v w : Writer), writers[i]? = some (some v) → writers[j]? = some (some w) →
    v.bucket = w.bucket → v.name = w.name → i = j

/-- The names that open writers go to are not taken. -/
def Unclaimed (writers : List (Option Writer)) (m : Store) : Prop :=
  ∀ w : Writer, some w ∈ writers → ∀ b ∈ m.buckets, b.info.id = w.bucket →
    w.name ∉ b.fileNames

variable {b : Backend (World σ)} {s : Session σ} {e : Event} {writers : List (Option Writer)}

theorem Unclaimed.narrows (h : Unclaimed writers m) (hnarrows : m.Narrows left) :
    Unclaimed writers left := by
  intro w hw b' hb' hid hmem
  obtain hempty | ⟨b, hb, hsame, hsub⟩ := hnarrows b' hb'
  · rw [hempty] at hmem
    cases hmem
  · exact h w hw b hb (hsame.trans hid) (hsub.subset hmem)

/-- A change gives no file name to a second object, as long as no two writers go to one
place. -/
theorem Change.fileNames (h : Change b settings s m e left writers) (hm : m.Apart)
    (hreject : settings.rejectDuplicates = true) (hone : OneEach s.writers)
    (hI : m.FileNamesDiffer ∧ Unclaimed s.writers m) :
    left.FileNamesDiffer ∧ Unclaimed writers left := by
  obtain ⟨hdiffer, hfree⟩ := hI
  cases h with
  | @served _ now request response _ heffect =>
    have hnarrows := heffect.narrows
    refine ⟨hnarrows.fileNamesDiffer hdiffer, Unclaimed.narrows (fun w hw => ?_) hnarrows⟩
    obtain hold | hnew := List.mem_append.mp hw
    · exact hfree w hold
    · obtain hnone | ⟨writer, hresponse, hsome⟩ := handedOut_cases (.ok response)
      · rw [hnone] at hnew
        cases hnew
      · rw [hsome] at hnew
        obtain rfl := Option.some.inj (List.mem_singleton.mp hnew)
        intro b hb hid
        exact (heffect.opens w (Except.ok.inj hresponse)).notMem_fileNames hm hreject hb hid
  | @stored _ now number writer id _ hfound hstores =>
    have hopen := Option.join_eq_some_iff.mp hfound
    refine ⟨hstores.fileNamesDiffer hdiffer (hfree writer (mem_of_writer? hfound)), ?_⟩
    intro w hw b' hb' hid'
    obtain ⟨i, hi⟩ := List.mem_iff_getElem?.mp hw
    rw [List.getElem?_set] at hi
    obtain rfl | hother := eq_or_ne number i
    · simp at hi
    rw [if_neg hother] at hi
    have hold := hfree w (List.mem_of_getElem? hi)
    obtain hb' | ⟨b, hb, hid, hsame, hnames⟩ := hstores.fileNames hb'
    · exact hold b' hb' hid'
    · have hbucket : writer.bucket = w.bucket := hsame.symm.trans hid'
      rw [hnames, List.mem_append, List.mem_singleton]
      rintro (htaken | hname)
      · exact hold b hb (hid.trans hbucket) htaken
      · exact hother (hone number i writer w hopen hi hbucket hname.symm)
  | @wrote _ number writer hfound staging =>
    refine ⟨hdiffer, fun w hw => ?_⟩
    obtain hold | hnew := List.mem_or_eq_of_mem_set hw
    · exact hfree w hold
    · cases hnew
      exact hfree writer (mem_of_writer? hfound)
  | released number => exact ⟨hdiffer, fun w hw => hfree w (mem_of_mem_set_none hw)⟩
  | idle => exact ⟨hdiffer, hfree⟩

/-- A change gives no name to a second bucket of the owner. -/
theorem Change.bucketNames (h : Change b settings s m e left writers)
    (hreject : settings.rejectDuplicates = true) (hm : (m.bucketNames settings.owner).Nodup) :
    (left.bucketNames settings.owner).Nodup := by
  cases h with
  | served heffect => exact heffect.bucketNames hreject hm
  | stored _ hstores =>
    rw [hstores.bucketNames]
    exact hm
  | _ => exact hm

-- ---------------------------------------------------------------------------
-- Runs
-- ---------------------------------------------------------------------------

/-- A record leads to one session only. -/
theorem Run.eq_after {start : Session σ} {log : List (Event × Outcome)}
    (h : Run b settings start log s) : s = (after b settings start (log.map Prod.fst)).2 := by
  induction h with
  | start => rfl
  | @step log s _ e ih => simp only [after, List.map_append, List.foldl_append] at ih ⊢; simp [← ih]

variable {k : BackendKind} {start : World k.Store} {s : Session k.Store}
  {log : List (Event × Outcome)}

/-- When duplicates are refused, no steps lead to two buckets of the owner with one name. Nor
do they lead to two top-level objects of a bucket with one file name, unless two writers were
open for one place at once. -/
theorem names_unique_unless_raced (hreject : settings.rejectDuplicates = true)
    (hstart : k.Empty start) (hrun : Run k.backend settings ⟨start, []⟩ log s)
    (hd : s.world.host.ids.Distinct) :
    ∃ m, k.Holds s.world m ∧ (m.bucketNames settings.owner).Nodup ∧
      ((∀ log' s', log' <+: log → Run k.backend settings ⟨start, []⟩ log' s' →
          OneEach s'.writers) →
        ∀ b ∈ m.buckets, b.fileNames.Nodup) := by
  have hb := k.faithful
  obtain ⟨m, hm, hbuckets, hobjects⟩ := hrun.maintains hb
    (I := fun m writers => (m.bucketNames settings.owner).Nodup ∧
      ((∀ log' s', log' <+: log → Run k.backend settings ⟨start, []⟩ log' s' →
          OneEach s'.writers) →
        m.FileNamesDiffer ∧ Unclaimed writers m))
    (fun log' s m e outcome left writers hrun' hpre hm ⟨hbuckets, hobjects⟩ hchange =>
      ⟨hchange.bucketNames hreject hbuckets, fun hone =>
        hchange.fileNames (hb.sound hm).apart hreject
          (hone log' s ((List.prefix_append _ _).trans hpre) hrun') (hobjects hone)⟩)
    ⟨{}, hstart.holds, List.nodup_nil, fun _ =>
      ⟨fun _ hb => (List.not_mem_nil hb).elim, fun _ hw => (List.not_mem_nil hw).elim⟩⟩ hd
  exact ⟨m, hm, hbuckets, fun hone => (hobjects hone).1⟩

def refusing : Settings := { rejectDuplicates := true }

/-- The object `a` is put into the bucket `b`, by as many clients at once as there are in the
list, who all close their writers afterwards. -/
def putBy (clients : List Nat) : List Event :=
  .request {} 0 (.mkdir (.bucket "b")) ::
    clients.map (fun _ => .request {} 0 (.put (.object "b" "a"))) ++ clients.map (.close {} 0)

def putRun (clients : List Nat) : List (Event × Outcome) × Session Memory.Store :=
  after Memory.backend refusing ⟨emptyWorld, []⟩ (putBy clients)

/-- The object that a client is told to have stored. -/
def Outcome.stored? : Outcome → Option ObjectId
  | .closed (.ok id) => some id
  | _ => none

/-- The failure that a client is told of by a request. -/
def Outcome.refused? : Outcome → Option FsError
  | .answered (.error cause) => some cause
  | _ => none

/-- One client alone puts `a`, asks for both names a second time, and puts `c`. -/
def aloneEvents : List Event :=
  putBy [0] ++ [.request {} 0 (.mkdir (.bucket "b")), .request {} 0 (.put (.object "b" "a")),
    .request {} 0 (.put (.object "b" "c")), .close {} 0 1]

def aloneRun : List (Event × Outcome) × Session Memory.Store :=
  after Memory.backend refusing ⟨emptyWorld, []⟩ aloneEvents

/-- The names that are taken are refused to the client, who leaves none of them twice. -/
theorem names_unique_alone :
    refusing.rejectDuplicates = true ∧ BackendKind.memory.Empty emptyWorld ∧
      aloneRun.2.world.host.ids.Distinct ∧
      aloneRun.1.filterMap (·.2.refused?) = [.alreadyExists "/b", .alreadyExists "/b/a"] ∧
      aloneRun.1.filterMap (·.2.stored?) = [⟨1⟩, ⟨2⟩] ∧
      ∃ m, BackendKind.memory.Holds aloneRun.2.world m ∧
        (m.bucketNames refusing.owner).Nodup ∧ ∀ b ∈ m.buckets, b.fileNames.Nodup := by
  have hstart : BackendKind.memory.Empty emptyWorld := ⟨rfl, rfl, rfl⟩
  have hrun : Run Memory.backend refusing ⟨emptyWorld, []⟩ aloneRun.1 aloneRun.2 :=
    run_after _ _ _ _
  have hd : aloneRun.2.world.host.ids.Distinct := hrun.distinct_of_few (by decide +kernel)
  obtain ⟨m, hm, hbuckets, hobjects⟩ :=
    names_unique_unless_raced (k := .memory) rfl hstart hrun hd
  refine ⟨rfl, hstart, hd, by decide +kernel, by decide +kernel, m, hm, hbuckets,
    hobjects fun log' s' hpre hrun' => ?_⟩
  -- At most one writer is open at any time, so no two go to one place.
  let writers (n : Nat) := (after Memory.backend refusing ⟨emptyWorld, []⟩
    (aloneEvents.take n)).2.writers
  have hfew : ∀ n ≤ 7, (writers n).length ≤ 2 := by decide +kernel
  have hone : ∀ n ≤ 7, ∀ i < 2, ∀ j < 2, ((writers n)[i]?).join.isSome →
      ((writers n)[j]?).join.isSome → i = j := by
    decide +kernel
  have hevents : log'.map Prod.fst <+: aloneEvents := hpre.map Prod.fst
  have hs' : s'.writers = writers (log'.map Prod.fst).length := by
    dsimp only [writers]
    rw [← List.prefix_iff_eq_take.mp hevents, ← Run.eq_after (b := Memory.backend) hrun']
  have hlength := hfew _ hevents.length_le
  rw [← hs'] at hlength
  intro i j v w hv hw _ _
  have hi := (List.getElem?_eq_some_iff.mp hv).1
  have hj := (List.getElem?_eq_some_iff.mp hw).1
  refine hone _ hevents.length_le i (by omega) j (by omega) ?_ ?_
  · rw [← hs', hv]
    rfl
  · rw [← hs', hw]
    rfl

/-- Two clients at once are both told that they have stored the object, and both have. -/
theorem names_taken_twice :
    refusing.rejectDuplicates = true ∧ BackendKind.memory.Empty emptyWorld ∧
      (putRun [0, 1]).1.filterMap (·.2.stored?) = [⟨1⟩, ⟨2⟩] ∧
      (putRun [0, 1]).2.world.store.buckets.map StoredBucket.fileNames = [["a", "a"]] ∧
      ¬ ∀ b ∈ (putRun [0, 1]).2.world.store.buckets, b.fileNames.Nodup :=
  ⟨rfl, ⟨rfl, rfl, rfl⟩, by decide +kernel, by decide +kernel, by decide +kernel⟩

end Session
end ObjectGateway
