import ObjectGateway.Proofs.Backend.Command
import ObjectGateway.Proofs.Memory.Store
/-!
# What a served call leaves

A call that is served keeps the store in order as long as the keys that the host hands
out differ. What it answers and leaves depends on the buckets of the store alone.
-/
namespace ObjectGateway.Memory

variable {w : World Store} {m m' : Store} {c : Command}

/-! ## Served calls -/

/-- All that a served call can do to the world. -/
inductive Served (w : World Store) : Command → World Store → Prop
  | unchanged (c : Command) : Served w c w
  | stored {header : ObjectHeader} {payload : PayloadStream} {chunks : List Bytes}
      (hdrain : payload.drain = .complete chunks)
      (hbucket : (w.store.bucket? header.bucket).isSome) :
      Served w (.putObject header payload) ⟨(w.host.draw .object).2,
        { w.store.addObject (.ofHeader (w.host.draw .object).1 header chunks.flatten) with
          lastUpload := chunks.map List.length }⟩
  | deletedObject (bucket : BucketId) (id : ObjectId) :
      Served w (.deleteObject bucket id) { w with store := w.store.removeObject bucket id }
  | made (header : BucketHeader) :
      Served w (.putBucket header) ⟨(w.host.draw .bucket).2, w.store.addBucket
        { info := ⟨(w.host.draw .bucket).1, header.owner, header.policy, header.acl,
            header.attributes⟩ }⟩
  | deletedBucket (id : BucketId) :
      Served w (.deleteBucket id) { w with store := w.store.removeBucket id }

/-- All that a call that succeeds can do to the world, by what it answers. -/
inductive Done (w : World Store) : (c : Command) → c.Answer → World Store → Prop
  | looked {c : Command} (hlooks : c.isMutating = false) (a : c.Answer) : Done w c a w
  | stored {header : ObjectHeader} {payload : PayloadStream} {chunks : List Bytes}
      (hdrain : payload.drain = .complete chunks)
      (hbucket : (w.store.bucket? header.bucket).isSome) :
      Done w (.putObject header payload) (w.host.draw .object).1 ⟨(w.host.draw .object).2,
        { w.store.addObject (.ofHeader (w.host.draw .object).1 header chunks.flatten) with
          lastUpload := chunks.map List.length }⟩
  | deletedObject {bucket : BucketId} {id : ObjectId}
      (hobject : (w.store.object? bucket id).isSome) :
      Done w (.deleteObject bucket id) () { w with store := w.store.removeObject bucket id }
  | made (header : BucketHeader) :
      Done w (.putBucket header) (w.host.draw .bucket).1 ⟨(w.host.draw .bucket).2,
        w.store.addBucket
          { info := ⟨(w.host.draw .bucket).1, header.owner, header.policy, header.acl,
              header.attributes⟩ }⟩
  | deletedBucket {id : BucketId} (hbucket : (w.store.bucket? id).isSome) :
      Done w (.deleteBucket id) () { w with store := w.store.removeBucket id }

/-- A look at the store leaves it as it is, whether it succeeds or not. -/
theorem looked_cases {r : Except BackendError c.Answer} (hlooks : c.isMutating = false)
    (hserve : serve w c = looked w r) :
    (∃ a, (serve w c).answer = some (.ok a) ∧ Done w c a (serve w c).after) ∨
      (∀ a, (serve w c).answer ≠ some (.ok a)) ∧ (serve w c).after = w := by
  rw [hserve]
  cases r with
  | ok a => exact .inl ⟨a, rfl, .looked hlooks a⟩
  | error cause => exact .inr ⟨by simp [looked, answered], rfl⟩

/-- A call succeeds and does what it is there for, or it does nothing at all. -/
theorem serve_cases (w : World Store) (c : Command) :
    (∃ a, (serve w c).answer = some (.ok a) ∧ Done w c a (serve w c).after) ∨
      (∀ a, (serve w c).answer ≠ some (.ok a)) ∧ (serve w c).after = w := by
  cases c with
  | putObject header payload =>
    simp only [serve]
    cases hdrain : payload.drain with
    | failed cause => exact .inr ⟨by simp [looked, answered], rfl⟩
    | waiting chunks => exact .inr ⟨by simp [waiting], rfl⟩
    | complete chunks =>
      simp only [answered, upload]
      cases hbucket : w.store.bucket? header.bucket with
      | none => exact .inr ⟨by simp, rfl⟩
      | some b => exact .inl ⟨_, rfl, .stored hdrain (by rw [hbucket]; rfl)⟩
  | deleteObject bucket id =>
    simp only [serve]
    cases hobject : w.store.object? bucket id with
    | none => exact .inr ⟨by simp [looked, answered], rfl⟩
    | some o => exact .inl ⟨(), rfl, .deletedObject (by rw [hobject]; rfl)⟩
  | deleteBucket id =>
    simp only [serve]
    cases hbucket : w.store.bucket? id with
    | none => exact .inr ⟨by simp [looked, answered], rfl⟩
    | some b => exact .inl ⟨(), rfl, .deletedBucket (by rw [hbucket]; rfl)⟩
  | putBucket header => exact .inl ⟨_, rfl, .made header⟩
  | _ => exact looked_cases rfl rfl

theorem served (w : World Store) (c : Command) : Served w c (serve w c).after := by
  obtain ⟨a, -, hdone⟩ | ⟨-, hafter⟩ := serve_cases w c
  · generalize (serve w c).after = left at hdone
    cases hdone with
    | looked => exact .unchanged c
    | stored hdrain hbucket => exact .stored hdrain hbucket
    | deletedObject => exact .deletedObject _ _
    | made header => exact .made header
    | deletedBucket => exact .deletedBucket _
  · rw [hafter]
    exact .unchanged c

/-- A call that fails has done nothing. -/
theorem serve_error {cause : BackendError} (h : (serve w c).answer = some (.error cause)) :
    (serve w c).after = w := by
  obtain ⟨a, ha, -⟩ | ⟨-, hafter⟩ := serve_cases w c
  · rw [ha] at h
    cases h
  · exact hafter

theorem done_of_answer {a : c.Answer} (h : (serve w c).answer = some (.ok a)) :
    Done w c a (serve w c).after := by
  obtain ⟨a', ha, hdone⟩ | ⟨hnever, -⟩ := serve_cases w c
  · rw [ha, Option.some.injEq, Except.ok.injEq] at h
    exact h ▸ hdone
  · exact absurd h (hnever a)

theorem Done.extends {a : c.Answer} {left : World Store} (h : Done w c a left) :
    left.host.ids.Extends w.host.ids := by
  cases h with
  | stored => exact IdSupply.extends_draw _ .object
  | made => exact IdSupply.extends_draw _ .bucket
  | _ => exact .refl _

/-- The store keeps answering. -/
theorem serve_healthy (h : w.store.Healthy) (c : Command) : (serve w c).after.store.Healthy := by
  have hserved := served w c
  generalize (serve w c).after = left at hserved
  cases hserved with
  | _ => exact h

/-- A call draws keys or leaves the supply as it is. -/
theorem serve_extends (w : World Store) (c : Command) :
    (serve w c).after.host.ids.Extends w.host.ids := by
  have hserved := served w c
  generalize (serve w c).after = left at hserved
  cases hserved with
  | stored => exact IdSupply.extends_draw _ .object
  | made => exact IdSupply.extends_draw _ .bucket
  | _ => exact .refl _

/-- The store stays in order when no key is handed out twice. -/
theorem serve_sound (h : w.store.Sound w.host.ids) (c : Command)
    (hd : (serve w c).after.host.ids.Distinct) :
    (serve w c).after.store.Sound (serve w c).after.host.ids := by
  have hserved := served w c
  -- Only an upload and a new bucket draw a key; the others take away, or do nothing.
  generalize (serve w c).after = left at hserved hd ⊢
  cases hserved with
  | unchanged => exact h
  | @stored header _ chunks =>
    have hsound := h.upload hd header chunks.flatten
    exact ⟨hsound.distinct, hsound.issued, hsound.inside⟩
  | deletedObject bucket id => exact h.removeObject bucket id
  | made header =>
    exact (h.of_extends (IdSupply.extends_draw w.host.ids .bucket)).addBucket
      (IdSupply.issued_draw w.host.ids .bucket) (fun b hb => (h.issued b hb).ne_draw hd)
  | deletedBucket id => exact h.removeBucket id

/-! ## Stores with the same buckets -/

/-- Both stores answer, and they hold the same buckets. -/
structure Store.Alike (m m' : Store) : Prop where
  left : m.Healthy
  right : m'.Healthy
  buckets : m.buckets = m'.buckets

theorem Store.Alike.bucket? (h : m.Alike m') (bucket : BucketId) :
    m.bucket? bucket = m'.bucket? bucket := by
  simp only [Store.bucket?, h.buckets]

theorem Store.Alike.object? (h : m.Alike m') (bucket : BucketId) (id : ObjectId) :
    m.object? bucket id = m'.object? bucket id := by
  simp only [Store.object?, h.bucket?]

/-- Two stores that are alike answer alike, draw alike and stay alike. -/
theorem serve_alike (host : Host) (h : m.Alike m') (c : Command) :
    (serve ⟨host, m⟩ c).answer = (serve ⟨host, m'⟩ c).answer ∧
      (serve ⟨host, m⟩ c).after.host = (serve ⟨host, m'⟩ c).after.host ∧
      (serve ⟨host, m⟩ c).after.store.Alike (serve ⟨host, m'⟩ c).after.store := by
  -- Of the stores that are left only the buckets have to be compared.
  have hafter : ∀ n n' : Store, n = (serve ⟨host, m⟩ c).after.store →
      n' = (serve ⟨host, m'⟩ c).after.store → n.buckets = n'.buckets → n.Alike n' := by
    rintro _ _ rfl rfl hbuckets
    exact ⟨serve_healthy h.left c, serve_healthy h.right c, hbuckets⟩
  cases c with
  | headObject bucket id =>
    exact ⟨by simp [serve, looked, answered, Store.head, h.left.2, h.right.2, h.object?], rfl, h⟩
  | getRange bucket id offset length =>
    exact ⟨by simp [serve, looked, answered, Store.range, h.object?], rfl, h⟩
  | searchObjects bucket filters =>
    exact ⟨by simp [serve, looked, answered, Store.search, h.bucket?], rfl, h⟩
  | getBucket id => exact ⟨by simp [serve, looked, answered, h.bucket?], rfl, h⟩
  | listBuckets owner => exact ⟨by simp [serve, looked, answered, h.buckets], rfl, h⟩
  | putBucket header =>
    refine ⟨rfl, rfl, hafter _ _ rfl rfl ?_⟩
    simp [serve, answered, createBucket, Store.addBucket, h.buckets]
  | putObject header payload =>
    simp only [serve] at hafter ⊢
    cases hdrain : payload.drain with
    | failed cause => exact ⟨rfl, rfl, h⟩
    | waiting chunks => exact ⟨rfl, rfl, h⟩
    | complete chunks =>
      simp only [hdrain, answered, upload, h.bucket?] at hafter ⊢
      cases hbucket : m'.bucket? header.bucket with
      | none => exact ⟨rfl, rfl, h⟩
      | some b =>
        simp only [hbucket] at hafter ⊢
        refine ⟨trivial, trivial, hafter _ _ rfl rfl ?_⟩
        simp [Store.addObject, Store.onObjects, h.buckets]
  | deleteObject bucket id =>
    simp only [serve, h.object?] at hafter ⊢
    cases hobject : m'.object? bucket id with
    | none => exact ⟨rfl, rfl, h⟩
    | some o =>
      simp only [hobject] at hafter ⊢
      refine ⟨rfl, rfl, hafter _ _ rfl rfl ?_⟩
      simp [answered, Store.removeObject, Store.onObjects, h.buckets]
  | deleteBucket id =>
    simp only [serve, h.bucket?] at hafter ⊢
    cases hbucket : m'.bucket? id with
    | none => exact ⟨rfl, rfl, h⟩
    | some b =>
      simp only [hbucket] at hafter ⊢
      refine ⟨rfl, rfl, hafter _ _ rfl rfl ?_⟩
      simp [answered, Store.removeBucket, h.buckets]

end ObjectGateway.Memory
