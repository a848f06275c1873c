import ObjectGateway.Proofs.Memory.Serving
/-!
# One thing more or less

A store changes by one bucket or one object at a time. What is added comes last, what is
taken out leaves the others in their order, and nothing else is touched.
-/
namespace ObjectGateway.Memory

variable {m left : Store} {b : StoredBucket} {o : StoredObject} {objects : List StoredObject}

/-- One bucket more, behind all others. -/
def Store.GainsBucket (m : Store) (b : StoredBucket) (left : Store) : Prop :=
  left.buckets = m.buckets ++ [b]

/-- One bucket less, with all its objects. -/
def Store.LosesBucket (m : Store) (b : StoredBucket) (left : Store) : Prop :=
  ∃ front back, m.buckets = front ++ b :: back ∧ left.buckets = front ++ back

/-- The bucket has other objects, and all else is as it was. -/
def Store.Refills (m : Store) (b : StoredBucket) (objects : List StoredObject)
    (left : Store) : Prop :=
  ∃ front back, m.buckets = front ++ b :: back ∧
    left.buckets = front ++ { b with objects } :: back

/-- One object more in the bucket, behind all others. -/
def Store.GainsObject (m : Store) (b : StoredBucket) (o : StoredObject) (left : Store) : Prop :=
  m.Refills b (b.objects ++ [o]) left

/-- One object less in the bucket. -/
def Store.LosesObject (m : Store) (b : StoredBucket) (o : StoredObject) (left : Store) : Prop :=
  ∃ front back, b.objects = front ++ o :: back ∧ m.Refills b (front ++ back) left

/-! ## Lists without a key twice -/

section Lists

variable {α β : Type} [DecidableEq β] {key : α → β} {front back : List α} {x : α}

omit [DecidableEq β] in
/-- No other item has the key of this one. -/
theorem key_ne_of_nodup (h : ((front ++ x :: back).map key).Nodup) :
    (∀ y ∈ front, key y ≠ key x) ∧ ∀ y ∈ back, key y ≠ key x := by
  simp only [List.map_append, List.map_cons] at h
  rw [List.nodup_middle, List.nodup_cons] at h
  constructor
  · intro y hy hkey
    apply h.1
    rw [← hkey]
    exact List.mem_append_left _ (List.mem_map_of_mem hy)
  · intro y hy hkey
    apply h.1
    rw [← hkey]
    exact List.mem_append_right _ (List.mem_map_of_mem hy)

/-- A change of what has the key of an item is a change of that item. -/
theorem map_key_eq (h : ((front ++ x :: back).map key).Nodup) (f : α → α) :
    (front ++ x :: back).map (fun y => if key y = key x then f y else y) =
      front ++ f x :: back := by
  obtain ⟨hfront, hback⟩ := key_ne_of_nodup h
  have hsame : ∀ ys : List α, (∀ y ∈ ys, key y ≠ key x) →
      ys.map (fun y => if key y = key x then f y else y) = ys := by
    intro ys hys
    have hid : ys.map (fun y => if key y = key x then f y else y) = ys.map id :=
      List.map_congr_left fun y hy => if_neg (hys y hy)
    rw [hid, List.map_id]
  rw [List.map_append, List.map_cons, hsame front hfront, hsame back hback, if_pos rfl]

/-- What has another key than an item is all but that item. -/
theorem filter_key_ne (h : ((front ++ x :: back).map key).Nodup) :
    (front ++ x :: back).filter (fun y => key y != key x) = front ++ back := by
  obtain ⟨hfront, hback⟩ := key_ne_of_nodup h
  have hsame : ∀ ys : List α, (∀ y ∈ ys, key y ≠ key x) →
      ys.filter (fun y => key y != key x) = ys := by
    intro ys hys
    apply List.filter_eq_self.mpr
    intro y hy
    exact bne_iff_ne.mpr (hys y hy)
  rw [List.filter_append, List.filter_cons, hsame front hfront, hsame back hback]
  simp

/-- What has another key than the first item of a kind is all but that item. -/
theorem filter_key_ne_of_find? {xs : List α} {p : α → Bool} (h : (xs.map key).Nodup)
    (hfind : xs.find? p = some x) : xs.filter (fun y => key y != key x) = xs.eraseP p := by
  obtain ⟨hx, front, back, rfl, hfront⟩ := List.find?_eq_some_iff_append.mp hfind
  have hnone : ∀ y ∈ front, ¬p y = true := fun y hy => by simpa using hfront y hy
  rw [filter_key_ne h, List.eraseP_append_right _ hnone, List.eraseP_cons_of_pos hx]

end Lists

/-! ## What the changes of a store amount to -/

theorem Store.Apart.refills (h : m.Apart) (hb : b ∈ m.buckets)
    (f : List StoredObject → List StoredObject) :
    m.Refills b (f b.objects) (m.onObjects b.info.id f) := by
  obtain ⟨front, back, hsplit⟩ := List.append_of_mem hb
  have hdistinct := h.buckets
  rw [hsplit] at hdistinct
  refine ⟨front, back, hsplit, ?_⟩
  have hmap := map_key_eq hdistinct fun b : StoredBucket => { b with objects := f b.objects }
  rw [← hsplit] at hmap
  exact hmap

theorem Store.Apart.losesBucket (h : m.Apart) (hb : b ∈ m.buckets) :
    m.LosesBucket b (m.removeBucket b.info.id) := by
  obtain ⟨front, back, hsplit⟩ := List.append_of_mem hb
  have hdistinct := h.buckets
  rw [hsplit] at hdistinct
  refine ⟨front, back, hsplit, ?_⟩
  have hfilter := filter_key_ne hdistinct
  rw [← hsplit] at hfilter
  exact hfilter

theorem Store.Apart.gainsObject (h : m.Apart) (hb : b ∈ m.buckets)
    (hbucket : o.info.bucket = b.info.id) : m.GainsObject b o (m.addObject o) := by
  have hrefills := h.refills hb (· ++ [o])
  rw [← hbucket] at hrefills
  exact hrefills

theorem Store.Apart.losesObject (h : m.Apart) (hb : b ∈ m.buckets) (ho : o ∈ b.objects) :
    m.LosesObject b o (m.removeObject b.info.id o.info.id) := by
  obtain ⟨front, back, hsplit⟩ := List.append_of_mem ho
  have hdistinct := h.objects b hb
  rw [hsplit] at hdistinct
  refine ⟨front, back, hsplit, ?_⟩
  have hrefills := h.refills hb fun objects => objects.filter fun o' => o'.info.id != o.info.id
  rw [hsplit] at hrefills
  have hfilter := filter_key_ne hdistinct
  rw [hfilter] at hrefills
  exact hrefills

/-! ## The buckets that are left -/

variable {b' : StoredBucket}

theorem Store.GainsBucket.cases (h : m.GainsBucket b left) (hb' : b' ∈ left.buckets) :
    b' ∈ m.buckets ∨ b' = b := by
  rw [h] at hb'
  exact (List.mem_append.mp hb').imp_right List.mem_singleton.mp

theorem Store.LosesBucket.sublist (h : m.LosesBucket b left) : left.buckets.Sublist m.buckets := by
  obtain ⟨front, back, hsplit, hleft⟩ := h
  rw [hsplit, hleft]
  exact (List.sublist_cons_self b back).append_left front

theorem Store.Refills.mem (h : m.Refills b objects left) : b ∈ m.buckets := by
  obtain ⟨front, back, hsplit, -⟩ := h
  rw [hsplit]
  exact List.mem_append_right front List.mem_cons_self

theorem Store.Refills.cases (h : m.Refills b objects left) (hb' : b' ∈ left.buckets) :
    b' ∈ m.buckets ∨ b' = { b with objects } := by
  obtain ⟨front, back, hsplit, hleft⟩ := h
  rw [hleft, List.mem_append, List.mem_cons] at hb'
  rw [hsplit, List.mem_append, List.mem_cons]
  tauto

/-! ## What a change keeps -/

/-- All buckets are of the kind `P`, and all their objects of the kind `Q`. -/
def Store.Each (P : BucketMeta → Prop) (Q : StoredObject → Prop) (m : Store) : Prop :=
  ∀ b ∈ m.buckets, P b.info ∧ ∀ o ∈ b.objects, Q o

variable {P : BucketMeta → Prop} {Q : StoredObject → Prop}

theorem Store.GainsBucket.each (h : m.GainsBucket b left) (hm : m.Each P Q)
    (hb : P b.info ∧ ∀ o ∈ b.objects, Q o) : left.Each P Q := by
  intro b' hb'
  obtain hold | rfl := h.cases hb'
  · exact hm b' hold
  · exact hb

theorem Store.LosesBucket.each (h : m.LosesBucket b left) (hm : m.Each P Q) : left.Each P Q :=
  fun b' hb' => hm b' (h.sublist.subset hb')

theorem Store.Refills.each (h : m.Refills b objects left) (hm : m.Each P Q)
    (ho : ∀ o ∈ objects, Q o) : left.Each P Q := by
  intro b' hb'
  obtain hold | rfl := h.cases hb'
  · exact hm b' hold
  · exact ⟨(hm b h.mem).1, ho⟩

theorem Store.GainsObject.each (h : m.GainsObject b o left) (hm : m.Each P Q) (ho : Q o) :
    left.Each P Q := by
  refine Store.Refills.each h hm fun o' ho' => ?_
  obtain hold | hnew := List.mem_append.mp ho'
  · exact (hm b (Store.Refills.mem h)).2 o' hold
  · obtain rfl := List.mem_singleton.mp hnew
    exact ho

theorem Store.LosesObject.each (h : m.LosesObject b o left) (hm : m.Each P Q) :
    left.Each P Q := by
  obtain ⟨front, back, hsplit, hrefills⟩ := h
  refine hrefills.each hm fun o' ho' => ?_
  apply (hm b hrefills.mem).2 o'
  rw [hsplit]
  exact (List.sublist_cons_self o back).append_left front |>.subset ho'

/-- Other objects in a bucket that are of the kind `Q`. -/
theorem Store.Each.onObjects (hm : m.Each P Q) {bucket : BucketId}
    {f : List StoredObject → List StoredObject}
    (hf : ∀ b ∈ m.buckets, ∀ o ∈ f b.objects, Q o) : (m.onObjects bucket f).Each P Q := by
  intro b' hb'
  obtain ⟨b, hb, rfl⟩ := Store.mem_onObjects.mp hb'
  split
  · exact ⟨(hm b hb).1, hf b hb⟩
  · exact hm b hb

/-- A call keeps what is true of all buckets and objects, if it is true of what the call
creates. -/
theorem Store.Each.serve {w : World Store} {c : Command} (hm : w.store.Each P Q)
    (hmade : ∀ header id, c = .putBucket header →
      P ⟨id, header.owner, header.policy, header.acl, header.attributes⟩)
    (hstored : ∀ header payload id content, c = .putObject header payload →
      Q (.ofHeader id header content)) :
    (serve w c).after.store.Each P Q := by
  have hserved := served w c
  generalize (Memory.serve w c).after = after at hserved
  cases hserved with
  | unchanged => exact hm
  | @stored header payload chunks =>
    have hadded : (w.store.addObject
        (.ofHeader (w.host.draw .object).1 header chunks.flatten)).Each P Q := by
      refine hm.onObjects fun b hb o ho => ?_
      obtain ho | rfl := List.mem_append.mp ho |>.imp_right List.mem_singleton.mp
      · exact (hm b hb).2 o ho
      · exact hstored header payload _ _ rfl
    exact hadded
  | deletedObject bucket id =>
    exact hm.onObjects fun b hb o ho => (hm b hb).2 o (List.mem_of_mem_filter ho)
  | made header => exact Store.GainsBucket.each rfl hm ⟨hmade header _ rfl, nofun⟩
  | deletedBucket id => exact fun b hb => hm b (List.mem_of_mem_filter hb)

end ObjectGateway.Memory
