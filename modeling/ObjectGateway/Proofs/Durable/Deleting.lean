import ObjectGateway.Proofs.Durable.Directories
/-!
# Deletions that fail

A deletion takes away the row of its object before it tries to remove the payload. One that the
database refuses, or that finds no row, changes nothing. One whose payload cannot be removed
fails as well, but its object is gone by then.
-/
namespace ObjectGateway.Durable

variable {w left : World Store} {m : Memory.Store} {bucket : BucketId} {id : ObjectId}
  {o : Memory.StoredObject}

-- ---------------------------------------------------------------------------
-- The row
-- ---------------------------------------------------------------------------

section Rows

variable {db db' : Database}

def withoutObject (t : Table ObjectRow) (bucket : BucketId) (id : ObjectId) : Table ObjectRow :=
  ⟨t.rows.filter fun row => !(row.bucket == bucket && row.id == id), t.last⟩

theorem find?_withoutObject (t : Table ObjectRow) (bucket bucket' : BucketId)
    (id id' : ObjectId) :
    ((withoutObject t bucket id).rows.find? fun row => row.bucket == bucket' && row.id == id') =
      if bucket' = bucket ∧ id' = id then none
      else t.rows.find? fun row => row.bucket == bucket' && row.id == id' := by
  rw [withoutObject, List.find?_filter]
  split
  · rename_i hsame
    rw [List.find?_eq_none]
    grind
  · rename_i hother
    congr 1
    funext row
    rw [Bool.eq_iff_iff]
    grind

/-- A row is deleted from a table that is there, and nothing else becomes of the database. -/
theorem Database.deleteObject_inv {deleted : Bool}
    (h : db.deleteObject bucket id = .ok (deleted, db')) :
    ∃ t, db.objectTable = .ok t ∧ db'.objectTable = .ok (withoutObject t bucket id) ∧
      deleted = decide ((withoutObject t bucket id).rows.length < t.rows.length) := by
  simp only [Database.deleteObject, bind, Except.bind, pure, Except.pure] at h
  cases htable : db.objectTable with
  | error cause => simp [htable] at h
  | ok t =>
    cases hparents : db.referencedTable with
    | error cause => simp [htable, hparents] at h
    | ok parents =>
      simp only [htable, hparents, Except.ok.injEq, Prod.mk.injEq] at h
      obtain ⟨rfl, rfl⟩ := h
      have hreachable := Database.reachable_of_objectTable htable
      exact ⟨t, rfl, by simp [Database.objectTable, hreachable, withoutObject], rfl⟩

/-- The statement that deletes a row tells whether there was one, and leaves all others. -/
theorem Database.findObject_deleteObject {deleted : Bool}
    (h : db.deleteObject bucket id = .ok (deleted, db')) :
    (deleted = true ↔ ∃ row, db.findObject bucket id = .ok (some row)) ∧
      ∀ bucket' id', db'.findObject bucket' id' =
        if bucket' = bucket ∧ id' = id then .ok none else db.findObject bucket' id' := by
  obtain ⟨t, htable, htable', rfl⟩ := db.deleteObject_inv h
  constructor
  · rw [Database.findObject_of_table htable, decide_eq_true_iff, withoutObject,
      List.length_filter_lt_length_iff_exists]
    simp [← Option.isSome_iff_exists]
  · intro bucket' id'
    rw [Database.findObject_of_table htable', Database.findObject_of_table htable,
      find?_withoutObject]
    split <;> rfl

end Rows

-- ---------------------------------------------------------------------------
-- The ways to fail
-- ---------------------------------------------------------------------------

/-- A deletion for which the attempt to remove the payload comes to `removal`, whatever the
reason. -/
def deletion (removal : Except IoError FileTree) (bucket : BucketId) (id : ObjectId)
    (w : World Store) : Except BackendError Unit × World Store :=
  match w.store.db.deleteObject bucket id with
  | .error cause => (.error (.database cause), w)
  | .ok (false, _) => (.error .notFound, w)
  | .ok (true, db) =>
    let tidy (files : FileTree) : World Store :=
      withFiles (withDb w db) <|
        files.removeEmpty (bucketRoot w.store.base bucket) 2 (shardDir w.store.base bucket id)
    match removal with
    | .ok files => (.ok (), tidy files)
    | .error .notFound => (.ok (), tidy w.host.files)
    | .error cause => (.error (.io cause), withDb w db)

theorem deleteObject_eq_deletion (bucket : BucketId) (id : ObjectId) (w : World Store) :
    deleteObject bucket id w =
      deletion (w.host.files.removeFile (payloadFile w.store.base bucket id)) bucket id w := by
  unfold deleteObject deletion
  cases w.store.db.deleteObject bucket id with
  | error cause => rfl
  | ok r =>
    obtain ⟨deleted, db⟩ := r
    cases deleted <;> rfl

/-- How a deletion fails, and the world that it leaves then. -/
inductive Fails (removal : Except IoError FileTree) (bucket : BucketId) (id : ObjectId)
    (w : World Store) : BackendError → World Store → Prop
  | refused {cause : DatabaseError} (h : w.store.db.deleteObject bucket id = .error cause) :
      Fails removal bucket id w (.database cause) w
  | missing {db : Database} (h : w.store.db.deleteObject bucket id = .ok (false, db)) :
      Fails removal bucket id w .notFound w
  | stuck {db : Database} {cause : IoError}
      (h : w.store.db.deleteObject bucket id = .ok (true, db)) (hremoval : removal = .error cause)
      (hthere : cause ≠ .notFound) : Fails removal bucket id w (.io cause) (withDb w db)

theorem deletion_error_iff {removal : Except IoError FileTree} {cause : BackendError} :
    deletion removal bucket id w = (.error cause, left) ↔
      Fails removal bucket id w cause left := by
  constructor
  · intro h
    unfold deletion at h
    split at h
    · rename_i hrefused
      cases h
      exact .refused hrefused
    · rename_i hmissing
      cases h
      exact .missing hmissing
    · rename_i hdelete
      -- A payload that is gone already is no failure.
      split at h
      · cases h
      · cases h
      · rename_i hthere
        cases h
        exact .stuck hdelete rfl hthere
  · intro h
    unfold deletion
    cases h with
    | refused h => rw [h]
    | missing h => rw [h]
    | @stuck db cause h hremoval hthere =>
      subst hremoval
      cases cause with
      | notFound => exact absurd rfl hthere
      | _ => simp only [h]

-- ---------------------------------------------------------------------------
-- What is lost
-- ---------------------------------------------------------------------------

/-- The object had a row, and nothing else has changed than that this is gone. -/
structure Lost (bucket : BucketId) (id : ObjectId) (w left : World Store) : Prop where
  host : left.host = w.host
  row : ∃ row, w.store.db.findObject bucket id = .ok (some row)
  rows : ∀ bucket' id', left.store.db.findObject bucket' id' =
    if bucket' = bucket ∧ id' = id then .ok none else w.store.db.findObject bucket' id'

/-- A row that is there may be damaged, but it is never missed. -/
theorem ObjectRow.info_ne_notFound (row : ObjectRow) : row.info ≠ .error .notFound := by
  unfold ObjectRow.info
  split
  · rintro ⟨⟩
  · unfold readAttributes
    cases Attributes.decode row.attributes with
    | ok a => rintro ⟨⟩
    | error cause => rintro ⟨⟩

/-- So its head is not answered any more, which it was before, if only with damage. -/
theorem Lost.head (h : Lost bucket id w left) :
    left.store.head bucket id = .error .notFound ∧ w.store.head bucket id ≠ .error .notFound := by
  constructor
  · rw [Store.head, h.rows, if_pos ⟨rfl, rfl⟩]
    rfl
  · obtain ⟨row, hrow⟩ := h.row
    have hhead : w.store.head bucket id = row.info := by
      rw [Store.head, hrow]
      rfl
    rw [hhead]
    exact row.info_ne_notFound

/-- A deletion is stuck just when there is a row, which the database deletes, and a payload that
cannot be removed. -/
theorem deletion_stuck_iff {removal : Except IoError FileTree} {cause : IoError} :
    (deletion removal bucket id w).1 = .error (.io cause) ↔
      (∃ db, w.store.db.deleteObject bucket id = .ok (true, db)) ∧
        removal = .error cause ∧ cause ≠ .notFound := by
  constructor
  · intro h
    obtain ⟨left, hfail⟩ : ∃ left, deletion removal bucket id w = (.error (.io cause), left) :=
      ⟨_, Prod.ext h rfl⟩
    cases deletion_error_iff.mp hfail with
    | stuck hdelete hremoval hthere => exact ⟨⟨_, hdelete⟩, hremoval, hthere⟩
  · rintro ⟨⟨db, hdelete⟩, hremoval, hthere⟩
    exact congrArg Prod.fst (deletion_error_iff.mpr (.stuck hdelete hremoval hthere))

theorem lost_of_stuck {db : Database} (h : w.store.db.deleteObject bucket id = .ok (true, db)) :
    Lost bucket id w (withDb w db) := by
  obtain ⟨hrow, hrows⟩ := Database.findObject_deleteObject h
  exact ⟨rfl, hrow.mp rfl, hrows⟩

/-- Whatever the database and the files are like, and whatever comes of the attempt to remove
the payload: a deletion that fails has changed nothing, unless the payload is there and could
not be removed. Then the object is lost. -/
theorem failed_deletion_exact (w : World Store) (bucket : BucketId) (id : ObjectId) :
    deleteObject bucket id w =
      deletion (w.host.files.removeFile (payloadFile w.store.base bucket id)) bucket id w ∧
    ∀ removal : Except IoError FileTree,
      (∀ cause left, deletion removal bucket id w = (.error cause, left) →
        ((∀ c, cause ≠ .io c) ∧ left = w) ∨
        ∃ c, cause = .io c ∧ Lost bucket id w left ∧
          left.store.head bucket id = .error .notFound ∧
          w.store.head bucket id ≠ .error .notFound) ∧
      ∀ c, (deletion removal bucket id w).1 = .error (.io c) ↔
        (∃ db, w.store.db.deleteObject bucket id = .ok (true, db)) ∧
          removal = .error c ∧ c ≠ .notFound := by
  refine ⟨deleteObject_eq_deletion bucket id w, fun removal =>
    ⟨fun cause left hfail => ?_, fun c => deletion_stuck_iff⟩⟩
  cases deletion_error_iff.mp hfail with
  | refused => exact .inl ⟨nofun, rfl⟩
  | missing => exact .inl ⟨nofun, rfl⟩
  | stuck hdelete =>
    have hlost := lost_of_stuck hdelete
    exact .inr ⟨_, rfl, hlost, hlost.head⟩

-- ---------------------------------------------------------------------------
-- A directory in the place of a payload
-- ---------------------------------------------------------------------------

/-- The world once the payload of an object has made way for a directory. -/
def obstructed (w : World Store) (bucket : BucketId) (id : ObjectId) : World Store :=
  withFiles w (w.host.files.set (payloadFile w.store.base bucket id) .dir)

/-- Such a directory is not removed. -/
theorem Filed.removeFile_obstructed {base : Location} {t : FileTree} (h : Filed base t m)
    (ho : m.Contains bucket o) :
    (t.set (payloadFile base bucket o.info.id) .dir).removeFile
      (payloadFile base bucket o.info.id) = .error .isADirectory := by
  have hne : payloadFile base bucket o.info.id ≠ [] := by simp [payloadFile]
  have hlookup : (t.set (payloadFile base bucket o.info.id) .dir).lookup
      (payloadFile base bucket o.info.id) = .ok .dir := by
    refine FileTree.lookup_eq_dir_iff.mpr fun k hk => ?_
    rw [FileTree.find?_set hne]
    split
    · rfl
    · exact h.find?_leading ho hk ‹_›
  rw [FileTree.removeFile, hlookup]
  rfl

/-- So the deletion of the object fails, after which its head is not found any more. -/
theorem Holds.deleteObject_obstructed (h : Holds w m) (ho : m.Contains bucket o) :
    (obstructed w bucket o.info.id).store.head bucket o.info.id = .ok o.info ∧
      ∃ left, Durable.deleteObject bucket o.info.id (obstructed w bucket o.info.id) =
          (.error (.io .isADirectory), left) ∧
        Lost bucket o.info.id (obstructed w bucket o.info.id) left := by
  have hobject := h.sound.apart.object?_of_contains ho
  constructor
  · have hhead := h.head bucket o.info.id
    rw [Memory.Store.head, h.healthy.2, hobject] at hhead
    exact hhead
  · obtain ⟨buckets, objects, hdb, hrec⟩ := h.recorded
    obtain ⟨objects', hdelete, -⟩ := hrec.deleteObject bucket o.info.id
    rw [← hdb, hobject] at hdelete
    refine ⟨_, ?_, lost_of_stuck hdelete⟩
    rw [deleteObject_eq_deletion]
    exact deletion_error_iff.mpr (.stuck hdelete (h.filed.removeFile_obstructed ho) (by decide))

/-- A bucket with one object whose payload has made way for a directory. -/
theorem failed_deletion_deletes :
    let w := obstructed objectWorld ⟨0⟩ ⟨1⟩
    let r := deleteObject ⟨0⟩ ⟨1⟩ w
    w.store.head ⟨0⟩ ⟨1⟩ = .ok ⟨⟨1⟩, ⟨0⟩, Id.nil, 3, {}⟩ ∧ r.1 = .error (.io .isADirectory) ∧
      r.2.store.head ⟨0⟩ ⟨1⟩ = .error .notFound := by
  intro w r
  obtain ⟨-, m, hheld, honly⟩ := objectWorld_holds
  obtain ⟨hhead, left, hdelete, hlost⟩ :=
    hheld.deleteObject_obstructed ((honly _ _).mpr ⟨rfl, rfl⟩)
  have hr : r = (.error (.io .isADirectory), left) := hdelete
  refine ⟨hhead, ?_, ?_⟩
  · rw [hr]
  · rw [hr]
    exact hlost.head.1

/-- What the deletion of that object comes to. -/
theorem failed_deletion_exact_obstructed :
    let w := obstructed objectWorld ⟨0⟩ ⟨1⟩
    ∃ left, deleteObject ⟨0⟩ ⟨1⟩ w = (.error (.io .isADirectory), left) ∧
      Lost ⟨0⟩ ⟨1⟩ w left ∧ left.store.head ⟨0⟩ ⟨1⟩ = .error .notFound := by
  intro w
  obtain ⟨-, m, hheld, honly⟩ := objectWorld_holds
  obtain ⟨-, left, hdelete, -⟩ := hheld.deleteObject_obstructed ((honly _ _).mpr ⟨rfl, rfl⟩)
  have hfail : deleteObject ⟨0⟩ ⟨1⟩ w = (.error (.io .isADirectory), left) := hdelete
  obtain ⟨hsame, hexact⟩ := failed_deletion_exact w ⟨0⟩ ⟨1⟩
  refine ⟨left, hfail, ?_⟩
  rw [hsame] at hfail
  obtain ⟨hnot, -⟩ | ⟨_, -, hlost, hgone, -⟩ := (hexact _).1 _ left hfail
  · exact absurd rfl (hnot .isADirectory)
  · exact ⟨hlost, hgone⟩

end ObjectGateway.Durable
