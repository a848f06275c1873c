import ObjectGateway.Proofs.Durable.Tables
/-!
# Statements on recorded tables

On a database whose tables record a store, each statement answers what the store
answers, and each change is the change of the store.
-/
namespace ObjectGateway.Durable.Recorded

open Memory (StoredBucket StoredObject)

variable {buckets : Table BucketRow} {objects : Table ObjectRow} {m : Memory.Store}

theorem bucketTable_ofTables : (Database.ofTables buckets objects).bucketTable = .ok buckets :=
  rfl

theorem objectTable_ofTables : (Database.ofTables buckets objects).objectTable = .ok objects :=
  rfl

theorem referencedTable_ofTables :
    (Database.ofTables buckets objects).referencedTable = .ok buckets :=
  rfl

/-! ## Looking up -/

/-- The row of a bucket that must be there. -/
theorem found_bucket (h : Recorded buckets.rows objects.rows m) (bucket : BucketId) :
    match m.bucket? bucket with
    | some b => ∃ row, found ((Database.ofTables buckets objects).findBucket bucket) = .ok row ∧
        row.unnumbered = bucketRow b.info
    | none => found ((Database.ofTables buckets objects).findBucket bucket) = .error .notFound := by
  have hquery : (Database.ofTables buckets objects).findBucket bucket =
      .ok (buckets.rows.find? fun row => row.id == bucket) := rfl
  have hfind := h.find_bucket bucket
  rw [hquery]
  cases hrow : buckets.rows.find? fun row => row.id == bucket with
  | none =>
    rw [hrow, Option.map_none, eq_comm, Option.map_eq_none_iff] at hfind
    rw [hfind]
    rfl
  | some row =>
    rw [hrow, Option.map_some, eq_comm, Option.map_eq_some_iff] at hfind
    obtain ⟨b, hb, hsame⟩ := hfind
    rw [hb]
    exact ⟨row, rfl, hsame.symm⟩

/-- The row of an object that must be there. -/
theorem found_object (h : Recorded buckets.rows objects.rows m) (bucket : BucketId)
    (id : ObjectId) :
    match m.object? bucket id with
    | some o => ∃ row,
        found ((Database.ofTables buckets objects).findObject bucket id) = .ok row ∧
          row.unnumbered = storedRow o
    | none =>
      found ((Database.ofTables buckets objects).findObject bucket id) = .error .notFound := by
  have hquery : (Database.ofTables buckets objects).findObject bucket id =
      .ok (objects.rows.find? fun row => row.bucket == bucket && row.id == id) := rfl
  have hfind := h.find_object bucket id
  rw [hquery]
  cases hrow : objects.rows.find? fun row => row.bucket == bucket && row.id == id with
  | none =>
    rw [hrow, Option.map_none, eq_comm, Option.map_eq_none_iff] at hfind
    rw [hfind]
    rfl
  | some row =>
    rw [hrow, Option.map_some, eq_comm, Option.map_eq_some_iff] at hfind
    obtain ⟨o, ho, hsame⟩ := hfind
    rw [ho]
    exact ⟨row, rfl, hsame.symm⟩

/-- A search finds the objects of the bucket that satisfy the filters, in order. -/
theorem search (h : Recorded buckets.rows objects.rows m) {b : StoredBucket}
    (hb : b ∈ m.buckets) (filters : List SearchFilter) :
    (Database.ofTables buckets objects).search b.info.id filters =
      .ok ((b.objects.filter fun o => filters.all o.satisfies).map (·.info.id)) := by
  obtain ⟨found, hfound, hrows⟩ := filterM_satisfiesAll (h.inside b hb) filters
  have hids := congrArg (List.map ObjectRow.id) hrows
  simp only [List.map_map] at hids
  have hsearch : (Database.ofTables buckets objects).search b.info.id filters =
      ((objects.rows.filter fun row => row.bucket == b.info.id).filterM fun row =>
        row.satisfiesAll filters) >>= fun found => pure (found.map ObjectRow.id) := rfl
  rw [hsearch, hfound]
  exact congrArg Except.ok hids

/-- The buckets of an owner are listed in order. -/
theorem listBuckets (h : Recorded buckets.rows objects.rows m) (owner : OwnerId) :
    (Database.ofTables buckets objects).listBuckets owner =
      .ok ((m.buckets.filter fun b => b.info.owner == owner).map (·.info.id)) := by
  have hrows := congrArg (fun rows : List BucketRow =>
    (rows.filter fun row => row.owner == owner).map BucketRow.id) h.buckets
  simp only [List.filter_map, List.map_map] at hrows
  exact congrArg Except.ok hrows

/-! ## Changing -/

/-- A new bucket gets the next row. -/
theorem insertBucket (h : Recorded buckets.rows objects.rows m) (info : BucketMeta)
    (hnew : m.bucket? info.id = none) :
    ∃ buckets' : Table BucketRow,
      (Database.ofTables buckets objects).insertBucket (bucketRow info) =
        .ok (.ofTables buckets' objects) ∧
      Recorded buckets'.rows objects.rows (m.addBucket { info }) := by
  have hunique : (buckets.rows.any fun row => row.id == (bucketRow info).id) = false := by
    rw [h.any_bucket]
    simp [bucketRow, hnew]
  have hquery : (Database.ofTables buckets objects).insertBucket (bucketRow info) =
      .ok (.ofTables ⟨buckets.rows ++ [{ bucketRow info with seq := buckets.last + 1 }],
        buckets.last + 1⟩ objects) := by
    simp only [Database.insertBucket, bucketTable_ofTables, bind, Except.bind, hunique]
    rfl
  rw [hquery]
  refine ⟨_, rfl, ?_, fun b hb => ?_, fun row hrow => ?_, h.distinct⟩
  · simp [Memory.Store.addBucket, h.buckets, BucketRow.unnumbered, bucketRow]
  · obtain hb | rfl : b ∈ m.buckets ∨ b = { info } := by simpa [Memory.Store.addBucket] using hb
    · exact h.inside b hb
    · -- No row can belong to a bucket that was not there.
      have hempty : (objects.rows.filter fun row => row.bucket == info.id) = [] := by
        rw [List.filter_eq_nil_iff]
        intro row hrow hbucket
        obtain ⟨b, hb, hid⟩ := h.owned row hrow
        have hmiss := List.find?_eq_none.mp hnew b hb
        simp_all
      simp [hempty]
  · obtain ⟨b, hb, hid⟩ := h.owned row hrow
    exact ⟨b, by simp [Memory.Store.addBucket, hb], hid⟩

theorem buckets_onObjects (h : Recorded buckets.rows objects.rows m) (bucket : BucketId)
    (f : List StoredObject → List StoredObject) :
    buckets.rows.map BucketRow.unnumbered =
      (m.onObjects bucket f).buckets.map fun b => bucketRow b.info := by
  have hinfos := congrArg (List.map bucketRow) (m.map_info_onObjects bucket f)
  simp only [List.map_map] at hinfos
  exact h.buckets.trans hinfos.symm

/-- A new object of a bucket gets the next row. -/
theorem insertObject (h : Recorded buckets.rows objects.rows m) (o : StoredObject)
    (hbucket : (m.bucket? o.info.bucket).isSome)
    (hnew : ∀ row ∈ objects.rows, row.id ≠ o.info.id) :
    ∃ objects' : Table ObjectRow,
      (Database.ofTables buckets objects).insertObject (storedRow o) =
        .ok (.ofTables buckets objects') ∧
      Recorded buckets.rows objects'.rows (m.addObject o) := by
  have hunique : (objects.rows.any fun row => row.id == (storedRow o).id) = false := by
    rw [List.any_eq_false]
    intro row hrow
    simpa [storedRow, objectRow] using hnew row hrow
  have hreference : (buckets.rows.any fun row => row.id == (storedRow o).bucket) = true := by
    rw [h.any_bucket]
    exact hbucket
  have hquery : (Database.ofTables buckets objects).insertObject (storedRow o) =
      .ok (.ofTables buckets
        ⟨objects.rows ++ [{ storedRow o with seq := objects.last + 1 }], objects.last + 1⟩) := by
    simp only [Database.insertObject, objectTable_ofTables, referencedTable_ofTables, bind,
      Except.bind, hunique, hreference]
    rfl
  rw [hquery]
  refine ⟨_, rfl, h.buckets_onObjects _ _, fun b hb => ?_, fun row hrow => ?_, ?_⟩
  · obtain ⟨b₀, hb₀, rfl⟩ := Memory.Store.mem_onObjects.mp hb
    have hin := h.inside b₀ hb₀
    by_cases hid : b₀.info.id = o.info.bucket
    · simp [hid, Memory.StoredBucket.onObjects, ← hin, List.filter_append, storedRow, objectRow,
        ObjectRow.unnumbered]
    · simpa [hid, Ne.symm hid, List.filter_append, storedRow, objectRow] using hin
  · rw [List.mem_append, List.mem_singleton] at hrow
    refine Memory.Store.exists_onObjects.mpr ?_
    obtain hrow | rfl := hrow
    · exact h.owned row hrow
    · exact Memory.Store.bucket?_isSome_iff.mp hbucket
  · rw [List.map_append, List.nodup_append_comm]
    simpa [storedRow, objectRow] using ⟨hnew, h.distinct⟩

/-- The row of an object is deleted, if there is one. -/
theorem deleteObject (h : Recorded buckets.rows objects.rows m) (bucket : BucketId)
    (id : ObjectId) :
    ∃ objects' : Table ObjectRow,
      (Database.ofTables buckets objects).deleteObject bucket id =
        .ok ((m.object? bucket id).isSome, .ofTables buckets objects') ∧
      Recorded buckets.rows objects'.rows (m.removeObject bucket id) := by
  let kept := objects.rows.filter fun row => !(row.bucket == bucket && row.id == id)
  have hquery : (Database.ofTables buckets objects).deleteObject bucket id =
      .ok (kept.length < objects.rows.length, .ofTables buckets ⟨kept, objects.last⟩) := rfl
  -- The statement tells by the number of rows whether one was deleted.
  have hdeleted : decide (kept.length < objects.rows.length) = (m.object? bucket id).isSome := by
    have hfind := congrArg Option.isSome (h.find_object bucket id)
    rw [Option.isSome_map, Option.isSome_map] at hfind
    rw [← hfind, Bool.eq_iff_iff, decide_eq_true_iff, List.find?_isSome,
      List.length_filter_lt_length_iff_exists]
    simp
  rw [hquery, hdeleted]
  refine ⟨_, rfl, h.buckets_onObjects _ _, fun b hb => ?_, fun row hrow => ?_, ?_⟩
  · obtain ⟨b₀, hb₀, rfl⟩ := Memory.Store.mem_onObjects.mp hb
    have hin := h.inside b₀ hb₀
    by_cases hid : b₀.info.id = bucket
    · have hrows := congrArg (List.filter fun row : ObjectRow => row.id != id) hin
      rw [List.filter_map, List.filter_map, List.filter_filter] at hrows
      rw [if_pos hid]
      refine Eq.trans ?_ hrows
      rw [List.filter_filter]
      congr 2
      funext row
      rw [Bool.eq_iff_iff]
      simp only [StoredBucket.info_onObjects, hid, Bool.and_eq_true, Bool.not_eq_true',
        Bool.and_eq_false_imp, beq_iff_eq, beq_eq_false_iff_ne, bne_iff_ne, Function.comp_apply,
        ObjectRow.unnumbered]
      tauto
    · rw [if_neg hid, ← hin, List.filter_filter]
      congr 2
      funext row
      by_cases hrow : row.bucket = b₀.info.id <;> simp [hrow, hid]
  · exact Memory.Store.exists_onObjects.mpr (h.owned row (List.mem_of_mem_filter hrow))
  · exact (List.filter_sublist.map _).nodup h.distinct

/-- The row of a bucket is deleted with those of its objects, if there is one. -/
theorem deleteBucket (h : Recorded buckets.rows objects.rows m) (bucket : BucketId) :
    ∃ (buckets' : Table BucketRow) (objects' : Table ObjectRow),
      (Database.ofTables buckets objects).deleteBucket bucket =
        .ok ((m.bucket? bucket).isSome, .ofTables buckets' objects') ∧
      Recorded buckets'.rows objects'.rows (m.removeBucket bucket) := by
  have hthere := h.any_bucket bucket
  cases hb : m.bucket? bucket with
  | none =>
    rw [hb] at hthere
    -- Without a row nothing is deleted, on either side.
    have hmissing : m.removeBucket bucket = m := by
      have hall : ∀ b ∈ m.buckets, b.info.id ≠ bucket := by
        simpa using List.find?_eq_none.mp hb
      have hfilter : (m.buckets.filter fun b => b.info.id != bucket) = m.buckets := by
        simpa using hall
      simp [Memory.Store.removeBucket, hfilter]
    refine ⟨buckets, objects, ?_, hmissing.symm ▸ h⟩
    simp only [Database.deleteBucket, objectTable_ofTables, referencedTable_ofTables, bind,
      Except.bind, hthere]
    rfl
  | some b =>
    rw [hb] at hthere
    refine ⟨⟨buckets.rows.filter fun row => row.id != bucket, buckets.last⟩,
      ⟨objects.rows.filter fun row => row.bucket != bucket, objects.last⟩, ?_, ?_, fun b hb => ?_,
      fun row hrow => ?_, (List.filter_sublist.map _).nodup h.distinct⟩
    · simp only [Database.deleteBucket, objectTable_ofTables, referencedTable_ofTables, bind,
        Except.bind, hthere]
      rfl
    · have hrows := congrArg (List.filter fun row : BucketRow => row.id != bucket) h.buckets
      rw [List.filter_map, List.filter_map] at hrows
      exact hrows
    · obtain ⟨hb, hid⟩ := List.mem_filter.mp hb
      rw [← h.inside b hb, List.filter_filter]
      congr 2
      funext row
      by_cases hrow : row.bucket = b.info.id <;> simp_all
    · obtain ⟨hrow, hid⟩ := List.mem_filter.mp hrow
      obtain ⟨b, hb, howner⟩ := h.owned row hrow
      exact ⟨b, List.mem_filter.mpr ⟨hb, by simpa [howner] using hid⟩, howner⟩

end ObjectGateway.Durable.Recorded
