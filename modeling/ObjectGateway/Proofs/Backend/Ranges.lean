import ObjectGateway.Proofs.Backend.WriteOnce
import ObjectGateway.Proofs.Gateway.Paging
import ObjectGateway.Proofs.Memory.Enumeration
/-!
# Ranges of a payload

A range of a stored object is answered with just its bytes when it lies within the payload,
and refused with the three numbers that say so otherwise. Either backend computes with words
of 64 bits, and no range that can be asked for takes the sums beyond that.
-/
namespace ObjectGateway

-- ---------------------------------------------------------------------------
-- Sizes that are words
-- ---------------------------------------------------------------------------

/-- The sum of two words, if it is a word. -/
def checkedSum? (a b : UInt64) : Option UInt64 :=
  if a.toNat + b.toNat < UInt64.size then some (a + b) else none

/-- Where a range ends, if it ends within the size. -/
def rangeEnd? (offset length size : UInt64) : Option UInt64 :=
  (checkedSum? offset length).filter (· ≤ size)

/-- A size as it is recorded: a signed number, which counts as nothing when it is negative. -/
def recordedSize (size : Int) : UInt64 :=
  (max (Int64.ofInt size) 0).toUInt64

theorem toNat_checkedSum? {a b sum : UInt64} (h : checkedSum? a b = some sum) :
    sum.toNat = a.toNat + b.toNat := by
  unfold checkedSum? at h
  split at h
  · rename_i hfits
    obtain rfl := Option.some.inj h
    rw [UInt64.toNat_add, Nat.mod_eq_of_lt hfits]
  · cases h

theorem checkedSum?_eq_none {a b : UInt64} (h : checkedSum? a b = none) :
    UInt64.size ≤ a.toNat + b.toNat := by
  unfold checkedSum? at h
  split at h
  · cases h
  · exact Nat.not_lt.mp ‹_›

/-- A range that ends within the size has its end at the sum. -/
theorem rangeEnd?_of_le {offset length size : UInt64}
    (h : offset.toNat + length.toNat ≤ size.toNat) :
    ∃ stop, rangeEnd? offset length size = some stop ∧
      stop.toNat = offset.toNat + length.toNat := by
  cases hsum : checkedSum? offset length with
  | none =>
    have hlarge := checkedSum?_eq_none hsum
    have hsize := size.toNat_lt_size
    omega
  | some stop =>
    have hstop := toNat_checkedSum? hsum
    refine ⟨stop, ?_, hstop⟩
    rw [rangeEnd?, hsum, Option.filter_some, if_pos]
    rw [decide_eq_true_eq, UInt64.le_iff_toNat_le]
    omega

/-- There is no end of any other range, whether its sum is a word or not. -/
theorem rangeEnd?_of_lt {offset length size : UInt64}
    (h : size.toNat < offset.toNat + length.toNat) : rangeEnd? offset length size = none := by
  cases hsum : checkedSum? offset length with
  | none => rw [rangeEnd?, hsum, Option.filter_none]
  | some stop =>
    have hstop := toNat_checkedSum? hsum
    rw [rangeEnd?, hsum, Option.filter_some, if_neg]
    rw [decide_eq_true_eq, UInt64.le_iff_toNat_le]
    omega

theorem toNat_recordedSize {size : Int} (hlow : -2 ^ 63 ≤ size) (hhigh : size < 2 ^ 63) :
    (recordedSize size).toNat = size.toNat := by
  have hvalue : (Int64.ofInt size).toInt = size := Int64.toInt_ofInt_of_le hlow hhigh
  have hmax : recordedSize size =
      (if Int64.ofInt size ≤ 0 then 0 else Int64.ofInt size).toUInt64 := rfl
  rw [hmax]
  split
  · rename_i hle
    rw [Int64.le_iff_toInt_le, hvalue] at hle
    exact (Int.toNat_of_nonpos hle).symm
  · rename_i hpositive
    rw [Int64.le_iff_toInt_le, hvalue] at hpositive
    have hle : (0 : Int64) ≤ Int64.ofInt size := by
      rw [Int64.le_iff_toInt_le, hvalue]
      exact Int.le_of_lt (Int.not_le.mp hpositive)
    rw [Int64.toNat_toUInt64_of_le hle, Int64.toNatClampNeg, hvalue]

namespace Memory

/-- A range of a payload in memory, computed with words for sizes; none when it is cut where
there are no bytes. -/
def Store.wordRange (s : Store) (bucket : BucketId) (id : ObjectId) (offset length : UInt64) :
    Option (Except BackendError Bytes) :=
  match s.object? bucket id with
  | none => some (.error .notFound)
  | some o =>
    let size := UInt64.ofNat o.payload.length
    match rangeEnd? offset length size with
    | none => some (.error (.outOfRange offset.toNat length.toNat size.toNat))
    | some stop => (Listing.between? o.payload offset.toNat stop.toNat).map .ok

theorem Store.wordRange_eq {s : Store} {bucket : BucketId} {id : ObjectId}
    (h : ∀ o, s.object? bucket id = some o → o.payload.length < UInt64.size)
    (offset length : UInt64) :
    s.wordRange bucket id offset length = some (s.range bucket id offset.toNat length.toNat) := by
  unfold wordRange range
  cases ho : s.object? bucket id with
  | none => rfl
  | some o =>
    have hsize : (UInt64.ofNat o.payload.length).toNat = o.payload.length :=
      UInt64.toNat_ofNat_of_lt' (h o ho)
    by_cases hfit : offset.toNat + length.toNat ≤ o.payload.length
    · have hwithin : offset.toNat + length.toNat ≤ (UInt64.ofNat o.payload.length).toNat :=
        hsize.symm ▸ hfit
      obtain ⟨stop, hend, hstop⟩ := rangeEnd?_of_le hwithin
      simp only [hend, if_pos hfit, Listing.between?, hstop]
      rw [if_pos ⟨Nat.le_add_right _ _, hfit⟩, Nat.add_sub_cancel_left]
      rfl
    · have hend : rangeEnd? offset length (UInt64.ofNat o.payload.length) = none :=
        rangeEnd?_of_lt (by omega)
      simp only [hend, if_neg hfit, hsize]

end Memory

namespace Durable

def wordRange (w : World Store) (bucket : BucketId) (id : ObjectId) (offset length : UInt64) :
    Except BackendError Bytes := do
  let row ← found (w.store.db.findObject bucket id)
  let size := recordedSize row.size
  match rangeEnd? offset length size with
  | none => throw (.outOfRange offset.toNat length.toNat size.toNat)
  | some _ =>
    if length = 0 then return []
    match w.host.files.readFile (payloadFile w.store.base bucket id) with
    | .error .notFound => throw (.corrupt (.payloadMissing id))
    | .error cause => throw (.io cause)
    | .ok data =>
      let taken := data.slice offset.toNat length.toNat
      if taken.length < length.toNat then throw (.io .endOfFile) else return taken

theorem wordRange_eq {w : World Store} {bucket : BucketId} {id : ObjectId}
    (h : ∀ row, w.store.db.findObject bucket id = .ok (some row) →
      -2 ^ 63 ≤ row.size ∧ row.size < 2 ^ 63) (offset length : UInt64) :
    wordRange w bucket id offset length = range w bucket id offset.toNat length.toNat := by
  unfold wordRange range
  cases hfind : w.store.db.findObject bucket id with
  | error cause => rfl
  | ok row =>
  cases row with
  | none => rfl
  | some row =>
    obtain ⟨hlow, hhigh⟩ := h row hfind
    have hsize := toNat_recordedSize hlow hhigh
    have hzero : length = 0 ↔ length.toNat = 0 := by
      rw [← UInt64.toNat_inj, UInt64.toNat_zero]
    simp only [found, ofDatabase, bind, Except.bind, pure, Except.pure]
    by_cases hfit : offset.toNat + length.toNat ≤ row.size.toNat
    · have hwithin : offset.toNat + length.toNat ≤ (recordedSize row.size).toNat :=
        hsize.symm ▸ hfit
      obtain ⟨stop, hend, -⟩ := rangeEnd?_of_le hwithin
      rw [if_neg (Nat.not_lt.mpr hfit)]
      simp only [hend]
      by_cases hnone : length.toNat = 0
      · rw [if_pos hnone, if_pos (hzero.mpr hnone)]
      · rw [if_neg hnone, if_neg (fun h => hnone (hzero.mp h))]
        cases hread : w.host.files.readFile (payloadFile w.store.base bucket id) with
        | error cause => cases cause <;> rfl
        | ok data =>
          -- What is left behind the offset is too short just when the range ends beyond it.
          have hshort : (data.slice offset.toNat length.toNat).length < length.toNat ↔
              offset.toNat + length.toNat > data.length := by
            rw [Bytes.slice, List.length_take, List.length_drop]
            omega
          simp only [hshort]
    · have hend : rangeEnd? offset length (recordedSize row.size) = none :=
        rangeEnd?_of_lt (by omega)
      rw [if_pos (Nat.lt_of_not_le hfit)]
      simp only [hend, hsize]
      rfl

end Durable

-- ---------------------------------------------------------------------------
-- On either backend
-- ---------------------------------------------------------------------------

open Config (BackendKind)

def Config.BackendKind.wordRange : (k : BackendKind) → World k.Store → BucketId → ObjectId →
    UInt64 → UInt64 → Option (Except BackendError Bytes)
  | .sqlite, w, bucket, id, offset, length => some (Durable.wordRange w bucket id offset length)
  | .memory, w, bucket, id, offset, length => w.store.wordRange bucket id offset length

/-- Every range of this payload is answered with its bytes, and every other one refused. -/
structure Config.BackendKind.Ranges (k : BackendKind) (bucket : BucketId) (id : ObjectId)
    (payload : Bytes) (w : World k.Store) : Prop where
  inside : ∀ offset length, offset + length ≤ payload.length →
    (k.backend.call (.getRange bucket id offset length) w).answer =
      some (.ok (payload.slice offset length))
  outside : ∀ offset length, payload.length < offset + length →
    (k.backend.call (.getRange bucket id offset length) w).answer =
      some (.error (.outOfRange offset length payload.length))
  /-- Words do for it as long as a signed one does for the size. -/
  words : payload.length < 2 ^ 63 → ∀ offset length : UInt64,
    k.wordRange w bucket id offset length =
      (k.backend.call (.getRange bucket id offset.toNat length.toNat) w).answer

/-- An object that a history leaves, in a bucket that it leaves. -/
def Remains (log : List Deed) (bucket : BucketId) (u : Upload) : Prop :=
  (∃ c ∈ creations log, c.id = bucket) ∧ u ∈ uploads bucket log

section History

variable {log : List Deed} {m : Memory.Store} {ids : IdSupply} {bucket : BucketId} {id : ObjectId}

/-- What a store finds is what its history leaves. -/
theorem Memory.Store.Sound.object?_of_remains (h : m.Sound ids)
    (hbuckets : m.buckets = Memory.recorded log) {u : Upload} (hu : Remains log bucket u) :
    m.object? bucket u.id = some u.stored := by
  obtain ⟨⟨c, hc, rfl⟩, hu⟩ := hu
  have hmem : ⟨c.info, (uploads c.id log).map Upload.stored⟩ ∈ m.buckets :=
    hbuckets ▸ List.mem_map_of_mem hc
  exact h.apart.object?_of_mem hmem (List.mem_map_of_mem hu)

theorem Memory.remains_of_object? (hbuckets : m.buckets = Memory.recorded log)
    {o : Memory.StoredObject} (ho : m.object? bucket id = some o) :
    ∃ u, Remains log bucket u ∧ u.id = id := by
  obtain ⟨b, hb, hfind⟩ := Memory.Store.object?_eq_some ho
  obtain ⟨hmem, rfl⟩ := Memory.Store.bucket?_eq_some hb
  obtain ⟨hobject, rfl⟩ := Memory.StoredBucket.find?_eq_some hfind
  rw [hbuckets] at hmem
  obtain ⟨c, hc, rfl⟩ := List.mem_map.mp hmem
  obtain ⟨u, hu, rfl⟩ := List.mem_map.mp hobject
  exact ⟨u, ⟨⟨c, hc, rfl⟩, hu⟩, rfl⟩

end History

section Kinds

variable {k : BackendKind} {start w : World k.Store} {log : List Deed} {m : Memory.Store}
  {bucket : BucketId} {id : ObjectId} {o : Memory.StoredObject}

/-- Words do for every object that is held and not too large. -/
theorem Config.BackendKind.wordRange_eq (h : k.Holds w m) (ho : m.object? bucket id = some o)
    (hsize : o.payload.length < 2 ^ 63) (offset length : UInt64) :
    k.wordRange w bucket id offset length =
      (k.backend.call (.getRange bucket id offset.toNat length.toNat) w).answer := by
  cases k with
  | sqlite =>
    refine congrArg some (Durable.wordRange_eq (fun row hrow => ?_) offset length)
    -- The size that is recorded is that of the payload.
    obtain ⟨buckets, objects, hdb, hrec⟩ := h.recorded
    have hfound := hrec.found_object bucket id
    rw [ho, ← hdb, hrow] at hfound
    obtain ⟨row', hsame, hrow'⟩ := hfound
    obtain rfl := Except.ok.inj hsame
    have hrecorded : row.size = o.payload.length := congrArg Durable.ObjectRow.size hrow'
    omega
  | memory =>
    have halike := h.1.object? bucket id
    have hfits : ∀ found, w.store.object? bucket id = some found →
        found.payload.length < UInt64.size := by
      intro found hfound
      rw [halike, ho] at hfound
      obtain rfl := Option.some.inj hfound
      exact Nat.lt_trans hsize (by decide)
    have hcall : (Memory.backend.call (.getRange bucket id offset.toNat length.toNat) w).answer =
        some (w.store.range bucket id offset.toNat length.toNat) := by
      rw [Memory.Holds.call_eq h]
      rfl
    exact (w.store.wordRange_eq hfits offset length).trans hcall.symm

/-- The ranges of an object that is held. -/
theorem Config.BackendKind.ranges_of_held (h : k.Holds w m) (hd : w.host.ids.Distinct)
    (ho : m.object? bucket id = some o) : k.Ranges bucket id o.payload w where
  inside offset length hfit := by
    rw [k.faithful.answer_looked h hd (.getRange bucket id offset length) trivial rfl]
    simp only [Memory.Store.range, ho, if_pos hfit]
  outside offset length hbeyond := by
    rw [k.faithful.answer_looked h hd (.getRange bucket id offset length) trivial rfl]
    simp only [Memory.Store.range, ho, if_neg (Nat.not_le.mpr hbeyond)]
  words hsize := k.wordRange_eq h ho hsize

/-- After any calls of an empty store, whether they succeeded or not, every object that was
uploaded and not deleted since is there with its size, and a range of it is answered with
just its bytes when it ends within the payload, and refused with its offset, its length and
the size otherwise. Nothing is answered for what is not there. -/
theorem stored_ranges_exact (hstart : k.Empty start) (hrun : k.backend.Run start log w)
    (hd : w.host.ids.Distinct) :
    (∀ bucket u, Remains log bucket u →
      (k.backend.call (.headObject bucket u.id) w).answer = some (.ok u.stored.info) ∧
      u.stored.info.size = u.payload.length ∧ k.Ranges bucket u.id u.payload w) ∧
    ∀ bucket id, (∀ u, Remains log bucket u → u.id ≠ id) → k.backend.Missing bucket id w := by
  have hb := k.faithful
  obtain ⟨m, hm, hsound, haccounts⟩ := hb.atomic.run_recounts Memory.recounts_accounts []
    hrun ⟨{}, hstart.holds, hb.sound hstart.holds, rfl, by simp⟩ hd
  refine ⟨fun bucket u hu => ?_, fun bucket id hother => ?_⟩
  · have ho := hsound.object?_of_remains haccounts.buckets hu
    exact ⟨by rw [hb.answer_head hm hd, ho], rfl, k.ranges_of_held hm hd ho⟩
  · refine hb.missing hm hd ?_
    by_contra hsome
    obtain ⟨o, ho⟩ := Option.ne_none_iff_exists'.mp hsome
    obtain ⟨u, hu, hid⟩ := Memory.remains_of_object? haccounts.buckets ho
    exact hother u hu hid

/-- Three bytes in memory, of which two are read, the largest words that there are taken for
an offset and a length, and nothing asked for beyond the end. -/
theorem stored_ranges_exact_wrapping :
    let b := BackendKind.memory.backend
    let start : World Memory.Store := ⟨{ ids := ⟨BitVec.ofNat 128, 0⟩ }, {}⟩
    let header : ObjectHeader := { bucket := ⟨0⟩, owner := Id.nil }
    let r := b.after start [.putBucket { owner := Id.nil },
      .putObject header (.ofChunks [[1, 2], [3]]), .putObject header (.ofChunks []),
      .deleteObject ⟨0⟩ ⟨2⟩]
    let u : Upload := ⟨⟨1⟩, header, [1, 2, 3]⟩
    BackendKind.memory.Empty start ∧ b.Run start r.1 r.2 ∧ r.2.host.ids.Distinct ∧
      Remains r.1 ⟨0⟩ u ∧ BackendKind.memory.Ranges ⟨0⟩ ⟨1⟩ [1, 2, 3] r.2 ∧
      (b.call (.getRange ⟨0⟩ ⟨1⟩ 1 2) r.2).answer = some (.ok [2, 3]) ∧
      BackendKind.memory.wordRange r.2 ⟨0⟩ ⟨1⟩ (-1) (-1) =
        some (.error (.outOfRange (2 ^ 64 - 1) (2 ^ 64 - 1) 3)) ∧
      BackendKind.memory.wordRange r.2 ⟨0⟩ ⟨1⟩ 4 0 = some (.error (.outOfRange 4 0 3)) ∧
      (∀ u, Remains r.1 ⟨0⟩ u → u.id ≠ ⟨2⟩) ∧ b.Missing ⟨0⟩ ⟨2⟩ r.2 := by
  intro b start header r u
  have hstart : BackendKind.memory.Empty start := ⟨rfl, rfl, rfl⟩
  have hrun : b.Run start r.1 r.2 := b.run_after _ _
  have hd : r.2.host.ids.Distinct := IdSupply.distinct_counting (n := 3) (by decide)
  have huploads : uploads ⟨0⟩ r.1 = [u] := rfl
  have hremains : Remains r.1 ⟨0⟩ u :=
    ⟨⟨⟨⟨0⟩, { owner := Id.nil }⟩, List.mem_cons_self, rfl⟩, huploads ▸ List.mem_cons_self⟩
  have hother : ∀ u, Remains r.1 ⟨0⟩ u → u.id ≠ ⟨2⟩ := by
    intro other hother
    have hmem := hother.2
    rw [huploads, List.mem_singleton] at hmem
    rw [hmem]
    decide
  obtain ⟨hthere, hmissing⟩ := stored_ranges_exact (k := .memory) hstart hrun hd
  obtain ⟨-, -, hranges⟩ := hthere ⟨0⟩ u hremains
  refine ⟨hstart, hrun, hd, hremains, hranges, hranges.inside 1 2 (by decide), ?_, ?_, hother,
    hmissing ⟨0⟩ ⟨2⟩ hother⟩
  · rw [hranges.words (by decide)]
    exact hranges.outside _ _ (by decide)
  · rw [hranges.words (by decide)]
    exact hranges.outside _ _ (by decide)

end Kinds

end ObjectGateway
