import ObjectGateway.Proofs.Backend.Kinds
import ObjectGateway.Proofs.Gateway.Lookup
import ObjectGateway.Proofs.Memory.Enumeration
/-!
# Searching for a name

Objects that were stored by others than gateways may have several file names, or none. They
go by the last one, and by the text of their identifier when there is none; a search finds
them by any of their file names, and by nothing else. So it finds the name they go by when
each of them has one file name.
-/
namespace ObjectGateway

open Config (BackendKind)

/-- An object with one file name goes by it. -/
theorem Memory.StoredObject.bears_eq_of_single {o : StoredObject}
    (h : ∃ v, ∀ n, o.bears n ↔ n = v) (n : String) : o.bears n = (o.name == n) := by
  obtain ⟨v, hv⟩ := h
  have hmem : ∀ n, (Attributes.fileNameKey, n) ∈ o.info.attributes.pairs ↔ n = v :=
    fun n => List.contains_iff_mem.symm.trans (hv n)
  obtain ⟨last, hlast⟩ := Attributes.exists_get?_of_mem ((hmem v).mpr rfl)
  obtain rfl := (hmem last).mp (Attributes.mem_of_get? hlast)
  rw [Bool.eq_iff_iff, hv, StoredObject.name, hlast, beq_iff_eq]
  exact eq_comm

variable {k : BackendKind} {start w : World k.Store} {log : List Deed}
  {found : Memory.StoredBucket} {entry : BucketEntry} {ctx : Context}

/-- After any calls of an empty store, a search of a bucket for a name finds the first
top-level object that was stored with the name and is still there, and none only if there is
no such object. When every top-level object has one file name, that is the first one which
is shown under the name. -/
theorem name_search_finds_first_stored (hstart : k.Empty start) (hrun : k.backend.Run start log w)
    (hd : w.host.ids.Distinct) (hfound : found ∈ Memory.recorded log)
    (hentry : entry.id = some found.info.id) (hlive : ctx.Live) (g : Gateway)
    (name path : String) :
    ctx.told k.backend (g.findObject entry name path) w =
      .ok ((found.roots.find? fun o => o.bears name).map g.objectEntry) ∧
    ((∀ o ∈ found.roots, ∃ v, ∀ n, o.bears n ↔ n = v) →
      ctx.told k.backend (g.findObject entry name path) w =
        .ok ((found.roots.map g.objectEntry).find? fun e => e.name == name)) := by
  have hb := k.faithful
  obtain ⟨m, hm, hsound, haccounts⟩ := hb.atomic.run_recounts Memory.recounts_accounts []
    hrun ⟨{}, hstart.holds, hb.sound hstart.holds, rfl, by simp⟩ hd
  have hthere : m.bucket? found.info.id = some found :=
    hsound.bucket?_of_mem (haccounts.buckets ▸ hfound)
  have htold := (g.findObject_reads_bearing hb (hb.healthy hm) hsound.apart entry hentry name
    path).told hm hd hlive
  rw [hthere] at htold
  refine ⟨htold, fun hsingle => htold.trans ?_⟩
  have hnames : ∀ o ∈ found.roots, o.bears name = (o.name == name) := fun o ho =>
    Memory.StoredObject.bears_eq_of_single (hsingle o ho) name
  rw [Option.map_some, List.find?_congr hnames, List.find?_map]
  rfl

open Session (emptyWorld)

/-- The first of two objects of one name is found, as it is shown. -/
theorem name_search_finds_first_stored_twins :
    let header : ObjectHeader :=
      { bucket := ⟨0⟩, owner := Id.nil, attributes := ⟨[(Attributes.fileNameKey, "a")]⟩ }
    let r := Memory.backend.after emptyWorld
      [.putBucket { owner := Id.nil }, .putObject header (.ofChunks [[1]]),
        .putObject header (.ofChunks [])]
    let found : Memory.StoredBucket := ⟨⟨⟨0⟩, Id.nil, defaultPolicy, .restricted, {}⟩,
      [.ofHeader ⟨1⟩ header [1], .ofHeader ⟨2⟩ header []]⟩
    let g : Gateway := ⟨{}, 1, 0⟩
    BackendKind.memory.Empty emptyWorld ∧ Memory.backend.Run emptyWorld r.1 r.2 ∧
      r.2.host.ids.Distinct ∧ found ∈ Memory.recorded r.1 ∧
      (∀ o ∈ found.roots, ∃ v, ∀ n, o.bears n ↔ n = v) ∧
      Context.told {} Memory.backend (g.findObject (g.bucketEntry found) "a" "/b/a") r.2 =
        .ok (some ⟨⟨0⟩, ⟨1⟩, "a", none, 1, 0⟩) := by
  intro header r found g
  have hstart : BackendKind.memory.Empty emptyWorld := ⟨rfl, rfl, rfl⟩
  have hrun : Memory.backend.Run emptyWorld r.1 r.2 := Memory.backend.run_after _ _
  have hd : r.2.host.ids.Distinct :=
    IdSupply.distinct_of_counting (Memory.atomic.extends_of_run hrun) rfl (by decide +kernel)
  have hfound : found ∈ Memory.recorded r.1 := by decide +kernel
  have hsingle : ∀ o ∈ found.roots, ∃ v, ∀ n, o.bears n ↔ n = v := by
    have hheader : ∀ (id : ObjectId) (payload : Bytes), ∀ n,
        (Memory.StoredObject.ofHeader id header payload).bears n ↔ n = "a" := by
      intro id payload n
      simp [Memory.StoredObject.bears, Memory.StoredObject.satisfies,
        Memory.StoredObject.ofHeader, header]
    intro o ho
    obtain rfl | rfl : o = .ofHeader ⟨1⟩ header [1] ∨ o = .ofHeader ⟨2⟩ header [] := by
      simpa [found] using List.mem_of_mem_filter ho
    · exact ⟨"a", hheader _ _⟩
    · exact ⟨"a", hheader _ _⟩
  have hentry : (g.bucketEntry found).id = some found.info.id := rfl
  have hsearch := name_search_finds_first_stored (k := .memory) hstart hrun hd hfound hentry
    Context.live_default g "a" "/b/a"
  exact ⟨hstart, hrun, hd, hfound, hsingle, (hsearch.2 hsingle).trans (by decide +kernel)⟩

/-- A bucket with an object that was stored with two file names and an object that was
stored with none. -/
def twiceNamed : List Deed × World Memory.Store :=
  Memory.backend.after emptyWorld
    [.putBucket { owner := Id.nil },
      .putObject { bucket := ⟨0⟩, owner := Id.nil,
                   attributes := ⟨[(Attributes.fileNameKey, "a"), (Attributes.fileNameKey, "b")]⟩ }
        (.ofChunks []),
      .putObject { bucket := ⟨0⟩, owner := Id.nil } (.ofChunks [])]

/-- A search comes upon the object that goes by `b` under the name `a`, under which nothing is
shown, and finds nothing under the name that the other object goes by. -/
theorem name_search_misses_shown_name :
    let g : Gateway := ⟨{}, 1, 0⟩
    let find (name : String) : Except FsError (Option ObjectEntry) :=
      Context.told {} Memory.backend (g.findObject ⟨some ⟨0⟩, "", 0⟩ name "/") twiceNamed.2
    Memory.backend.Run emptyWorld twiceNamed.1 twiceNamed.2 ∧
      ((Memory.recorded twiceNamed.1).flatMap (·.roots)).map (fun o => (g.objectEntry o).name) =
        ["b", (⟨2⟩ : ObjectId).text] ∧
      find "a" = .ok (some ⟨⟨0⟩, ⟨1⟩, "b", none, 0, 0⟩) ∧ find (⟨2⟩ : ObjectId).text = .ok none :=
  ⟨Memory.backend.run_after _ _, by decide +kernel, by decide +kernel, by decide +kernel⟩

end ObjectGateway
