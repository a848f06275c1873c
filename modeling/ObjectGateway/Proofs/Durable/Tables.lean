import ObjectGateway.Durable.Store
import ObjectGateway.Proofs.Attributes
import ObjectGateway.Proofs.Durable.Searching
import ObjectGateway.Proofs.Memory.Store
/-!
# Rows of what is stored

The tables record a store when their rows, numbers aside, are those of its buckets and
of the objects of each bucket, in order. Every statement then answers what the store
answers, and leaves tables that record what the store becomes.
-/
namespace ObjectGateway.Durable

open Memory (StoredBucket StoredObject)

/-! ## Rows -/

/-- A row but for its number. -/
def BucketRow.unnumbered (row : BucketRow) : BucketRow := { row with seq := 0 }

def ObjectRow.unnumbered (row : ObjectRow) : ObjectRow := { row with seq := 0 }

def bucketRow (info : BucketMeta) : BucketRow where
  id := info.id
  owner := info.owner
  policy := info.policy
  acl := info.acl.text
  attributes := String.ofList info.attributes.encode

def storedRow (o : StoredObject) : ObjectRow :=
  objectRow ⟨o.info.bucket, o.info.owner, o.info.attributes, o.parent⟩ o.info.id o.payload

theorem readAttributes_encode (a : Attributes) :
    readAttributes (String.ofList a.encode) = .ok a := by
  simp [readAttributes, Attributes.decode_encode]

theorem Database.reachable_of_bucketTable {db : Database} {t : Table BucketRow}
    (h : db.bucketTable = .ok t) : db.reachable = true := by
  by_contra hclosed
  simp [Database.bucketTable, hclosed] at h

theorem Database.reachable_of_objectTable {db : Database} {t : Table ObjectRow}
    (h : db.objectTable = .ok t) : db.reachable = true := by
  by_contra hclosed
  simp [Database.objectTable, hclosed] at h

theorem Database.findBucket_of_table {db : Database} {t : Table BucketRow}
    (h : db.bucketTable = .ok t) (id : BucketId) :
    db.findBucket id = .ok (t.rows.find? fun row => row.id == id) := by
  rw [Database.findBucket, h]
  rfl

theorem Database.findObject_of_table {db : Database} {t : Table ObjectRow}
    (h : db.objectTable = .ok t) (bucket : BucketId) (id : ObjectId) : db.findObject bucket id =
      .ok (t.rows.find? fun row => row.bucket == bucket && row.id == id) := by
  rw [Database.findObject, h]
  rfl

/-- A bucket is read from its row as it was written. -/
theorem BucketRow.info_of_unnumbered {row : BucketRow} {info : BucketMeta}
    (h : row.unnumbered = bucketRow info) : row.info = .ok info := by
  have hinfo : row.info = (bucketRow info).info := by
    rw [← h]
    rfl
  rw [hinfo]
  simp [BucketRow.info, bucketRow, Acl.parse?_text, readAttributes_encode, bind, Except.bind,
    pure, Except.pure]

/-- An object is read from its row as it was written. -/
theorem ObjectRow.info_of_unnumbered {row : ObjectRow} {o : StoredObject}
    (h : row.unnumbered = storedRow o) (hsized : o.info.size = o.payload.length) :
    row.info = .ok o.info := by
  have hinfo : row.info = (storedRow o).info := by
    rw [← h]
    rfl
  rw [hinfo]
  simp [ObjectRow.info, storedRow, objectRow, readAttributes_encode, bind, Except.bind, pure,
    Except.pure, ← hsized]

/-- A row satisfies a filter when its object does. -/
theorem ObjectRow.satisfies_of_unnumbered {row : ObjectRow} {o : StoredObject}
    (h : row.unnumbered = storedRow o) (f : SearchFilter) :
    row.satisfies f = .ok (o.satisfies f) := by
  have hsame : row.satisfies f = (storedRow o).satisfies f := by
    rw [← h]
    cases f <;> rfl
  rw [hsame]
  match f with
  | .root => rfl
  | .attribute key value => exact Document.hasPair_encode key value o.info.attributes

theorem ObjectRow.satisfiesAll_go {row : ObjectRow} {o : StoredObject}
    (h : row.unnumbered = storedRow o) (filters : List SearchFilter) :
    satisfiesAll.go row filters = .ok (filters.all o.satisfies) := by
  induction filters with
  | nil => rfl
  | cons f filters ih =>
    simp only [satisfiesAll.go, satisfies_of_unnumbered h, List.all_cons]
    cases o.satisfies f with
    | false => rfl
    | true => exact ih

/-- The order in which filters are tried does not matter. -/
theorem ObjectRow.satisfiesAll_of_unnumbered {row : ObjectRow} {o : StoredObject}
    (h : row.unnumbered = storedRow o) (filters : List SearchFilter) :
    row.satisfiesAll filters = .ok (filters.all o.satisfies) := by
  -- The statement tries the filters for top-level objects first.
  have hall : (filters.filter (· == .root) ++ filters.filter (· != .root)).all o.satisfies =
      filters.all o.satisfies := by
    rw [Bool.eq_iff_iff]
    simp only [List.all_eq_true, List.mem_append, List.mem_filter]
    constructor
    · intro hboth f hf
      by_cases hroot : f = .root
      · exact hboth f (.inl ⟨hf, by simp [hroot]⟩)
      · exact hboth f (.inr ⟨hf, by simpa using hroot⟩)
    · rintro hboth f (hf | hf)
      · exact hboth f hf.1
      · exact hboth f hf.1
  rw [satisfiesAll, satisfiesAll_go h, hall]

/-- The objects whose rows satisfy the filters, tried one by one behind those of `seen`. -/
theorem filterAuxM_satisfiesAll {rows : List ObjectRow} {objects : List StoredObject}
    (h : rows.map ObjectRow.unnumbered = objects.map storedRow) (filters : List SearchFilter)
    (seen : List ObjectRow) :
    ∃ found : List ObjectRow, rows.filterAuxM (fun row => row.satisfiesAll filters) seen =
        .ok (found.reverse ++ seen) ∧
      found.map ObjectRow.unnumbered =
        (objects.filter fun o => filters.all o.satisfies).map storedRow := by
  -- The filter gathers its rows in reverse, behind those it has seen before.
  induction rows generalizing objects seen with
  | nil =>
    obtain rfl : objects = [] := by simpa using h.symm
    exact ⟨[], rfl, rfl⟩
  | cons row rows ih =>
    cases objects with
    | nil => simp at h
    | cons o objects =>
      simp only [List.map_cons, List.cons.injEq] at h
      have hrow := ObjectRow.satisfiesAll_of_unnumbered h.1 filters
      rw [List.filterAuxM, hrow, List.filter_cons]
      cases filters.all o.satisfies with
      | false => exact ih h.2 seen
      | true =>
        obtain ⟨found, hfound, hrows⟩ := ih h.2 (row :: seen)
        refine ⟨row :: found, ?_, by simp [h.1, hrows]⟩
        rw [List.reverse_cons, List.append_assoc]
        exact hfound

theorem filterM_satisfiesAll {rows : List ObjectRow} {objects : List StoredObject}
    (h : rows.map ObjectRow.unnumbered = objects.map storedRow) (filters : List SearchFilter) :
    ∃ found, rows.filterM (fun row => row.satisfiesAll filters) = .ok found ∧
      found.map ObjectRow.unnumbered =
        (objects.filter fun o => filters.all o.satisfies).map storedRow := by
  obtain ⟨found, hfound, hrows⟩ := filterAuxM_satisfiesAll h filters []
  refine ⟨found, ?_, hrows⟩
  rw [List.append_nil] at hfound
  rw [List.filterM, hfound]
  simp [bind, Except.bind, pure, Except.pure]

/-! ## Tables -/

/-- The tables hold the buckets of a store in order, and the objects of each bucket in
order. -/
structure Recorded (buckets : List BucketRow) (objects : List ObjectRow) (m : Memory.Store) :
    Prop where
  buckets : buckets.map BucketRow.unnumbered = m.buckets.map fun b => bucketRow b.info
  inside : ∀ b ∈ m.buckets,
    (objects.filter fun row => row.bucket == b.info.id).map ObjectRow.unnumbered =
      b.objects.map storedRow
  owned : ∀ row ∈ objects, ∃ b ∈ m.buckets, b.info.id = row.bucket
  distinct : (objects.map ObjectRow.id).Nodup

/-- The database that holds these tables and can be reached. -/
def Database.ofTables (buckets : Table BucketRow) (objects : Table ObjectRow) : Database :=
  ⟨some buckets, some objects, true⟩

namespace Recorded

variable {buckets : List BucketRow} {objects : List ObjectRow} {m : Memory.Store}
  {bucket : BucketId} {id : ObjectId}

/-- Every row is that of a stored object. -/
theorem object_of_row (h : Recorded buckets objects m) {row : ObjectRow} (hrow : row ∈ objects) :
    ∃ b ∈ m.buckets, b.info.id = row.bucket ∧ ∃ o ∈ b.objects, row.unnumbered = storedRow o := by
  obtain ⟨b, hb, hid⟩ := h.owned row hrow
  have hmem : row.unnumbered ∈ b.objects.map storedRow := by
    rw [← h.inside b hb]
    exact List.mem_map_of_mem (List.mem_filter.mpr ⟨hrow, by simp [hid]⟩)
  obtain ⟨o, ho, hsame⟩ := List.mem_map.mp hmem
  exact ⟨b, hb, hid, o, ho, hsame.symm⟩

/-- Every stored object has a row. -/
theorem row_of_object (h : Recorded buckets objects m) {b : StoredBucket} (hb : b ∈ m.buckets)
    {o : StoredObject} (ho : o ∈ b.objects) :
    ∃ row ∈ objects, row.bucket = b.info.id ∧ row.unnumbered = storedRow o := by
  have hmem : storedRow o ∈
      (objects.filter fun row => row.bucket == b.info.id).map ObjectRow.unnumbered := by
    rw [h.inside b hb]
    exact List.mem_map_of_mem ho
  obtain ⟨row, hrow, hsame⟩ := List.mem_map.mp hmem
  obtain ⟨hrow, hbucket⟩ := List.mem_filter.mp hrow
  exact ⟨row, hrow, by simpa using hbucket, hsame⟩

theorem bucket_of_row (h : Recorded buckets objects m) {row : BucketRow} (hrow : row ∈ buckets) :
    ∃ b ∈ m.buckets, row.unnumbered = bucketRow b.info := by
  have hmem := List.mem_map_of_mem (f := BucketRow.unnumbered) hrow
  rw [h.buckets, List.mem_map] at hmem
  obtain ⟨b, hb, hsame⟩ := hmem
  exact ⟨b, hb, hsame.symm⟩

/-- The rows of buckets are told apart as the buckets are. -/
theorem map_bucket_id (h : Recorded buckets objects m) :
    buckets.map BucketRow.id = m.buckets.map fun b => b.info.id := by
  have hids := congrArg (List.map BucketRow.id) h.buckets
  simpa [Function.comp_def, BucketRow.unnumbered, bucketRow] using hids

theorem hasBucket_iff (h : Recorded buckets objects m) :
    m.HasBucket bucket ↔ ∃ row ∈ buckets, row.id = bucket := by
  have hmem : bucket ∈ buckets.map BucketRow.id ↔ bucket ∈ m.buckets.map fun b => b.info.id := by
    rw [h.map_bucket_id]
  simpa [Memory.Store.HasBucket] using hmem.symm

theorem any_bucket (h : Recorded buckets objects m) (bucket : BucketId) :
    (buckets.any fun row => row.id == bucket) = (m.bucket? bucket).isSome := by
  have hbucket : (m.bucket? bucket).isSome = true ↔ m.HasBucket bucket :=
    Memory.Store.bucket?_isSome_iff
  rw [Bool.eq_iff_iff, hbucket, h.hasBucket_iff]
  simp

/-- Whatever is asked of the places of objects may be asked of their rows. -/
theorem exists_object_iff (h : Recorded buckets objects m)
    (P : BucketId → ObjectId → Prop) :
    (∃ bucket o, m.Contains bucket o ∧ P bucket o.info.id) ↔
      ∃ row ∈ objects, P row.bucket row.id := by
  constructor
  · rintro ⟨bucket, o, ⟨b, hb, rfl, ho⟩, hP⟩
    obtain ⟨row, hrow, hbucket, hsame⟩ := h.row_of_object hb ho
    have hid : row.id = o.info.id := congrArg ObjectRow.id hsame
    exact ⟨row, hrow, by rwa [hbucket, hid]⟩
  · rintro ⟨row, hrow, hP⟩
    obtain ⟨b, hb, hid, o, ho, hsame⟩ := h.object_of_row hrow
    have hoid : row.id = o.info.id := congrArg ObjectRow.id hsame
    exact ⟨row.bucket, o, ⟨b, hb, hid, ho⟩, hoid ▸ hP⟩

theorem find_bucket (h : Recorded buckets objects m) (bucket : BucketId) :
    (buckets.find? fun row => row.id == bucket).map BucketRow.unnumbered =
      (m.bucket? bucket).map fun b => bucketRow b.info := by
  have hfind := congrArg (List.find? fun row => row.id == bucket) h.buckets
  rwa [List.find?_map, List.find?_map] at hfind

theorem find_object (h : Recorded buckets objects m) (bucket : BucketId) (id : ObjectId) :
    (objects.find? fun row => row.bucket == bucket && row.id == id).map ObjectRow.unnumbered =
      (m.object? bucket id).map storedRow := by
  cases hb : m.bucket? bucket with
  | none =>
    have hnone : (objects.find? fun row => row.bucket == bucket && row.id == id) = none := by
      rw [List.find?_eq_none]
      intro row hrow hmatch
      obtain ⟨b, hmem, hid⟩ := h.owned row hrow
      have hmiss := List.find?_eq_none.mp hb b hmem
      simp_all
    simp [hnone, Memory.Store.object?, hb]
  | some b =>
    -- Rows of other buckets may lie between, so the rows of this bucket are searched.
    obtain ⟨hmem, rfl⟩ := Memory.Store.bucket?_eq_some hb
    have hfind := congrArg (List.find? fun row => row.id == id) (h.inside b hmem)
    rw [List.find?_map, List.find?_map, List.find?_filter] at hfind
    rw [Memory.Store.object?_of_bucket? hb]
    have hsame : (fun row : ObjectRow => row.bucket == b.info.id && row.id == id) = fun row =>
        decide ((row.bucket == b.info.id) = true ∧
          ((fun row : ObjectRow => row.id == id) ∘ ObjectRow.unnumbered) row = true) := by
      funext row
      simp only [Bool.decide_and, Bool.decide_eq_true]
      rfl
    rw [hsame, hfind]
    rfl

end Recorded

end ObjectGateway.Durable
