import ObjectGateway.Proofs.Backend.Renaming
/-!
# Serving up to a renaming

Two stores in memory that are the same but for their keys answer corresponding
commands with the same results but for keys, and stay the same but for keys.
-/
namespace ObjectGateway.Memory

open List (Forall₂)

variable {ρ later : Renaming} {ids ids' : IdSupply} {m m' : Store}

/-! ## Stores that are the same but for keys -/

/-- Objects that are the same but for keys; of their parents it matters only whether
there is one. -/
structure SameObject (ρ : Renaming) (o o' : StoredObject) : Prop where
  info : ρ.ObjectMetas o.info o'.info
  parent : o.parent.isNone = o'.parent.isNone
  payload : o.payload = o'.payload

/-- Buckets that are the same but for keys, with the same objects in the same order. -/
structure SameBucket (ρ : Renaming) (b b' : StoredBucket) : Prop where
  info : ρ.BucketMetas b.info b'.info
  objects : Forall₂ (SameObject ρ) b.objects b'.objects

/-- Stores that are the same but for keys, which have been handed out by the supplies
`ids` and `ids'`. -/
structure Paired (ρ : Renaming) (ids ids' : IdSupply) (m m' : Store) : Prop where
  buckets : Forall₂ (SameBucket ρ) m.buckets m'.buckets
  oneBuckets : Renaming.OneToOne ρ.buckets
  oneObjects : Renaming.OneToOne ρ.objects
  issuedBuckets : ∀ p ∈ ρ.buckets, ids.Issued p.1 ∧ ids'.Issued p.2
  issuedObjects : ∀ p ∈ ρ.objects, ids.Issued p.1 ∧ ids'.Issued p.2

theorem SameObject.mono (hsub : ρ.Sub later) {o o' : StoredObject} (h : SameObject ρ o o') :
    SameObject later o o' :=
  { h with info := h.info.mono hsub }

theorem SameBucket.mono (hsub : ρ.Sub later) {b b' : StoredBucket} (h : SameBucket ρ b b') :
    SameBucket later b b' where
  info := h.info.mono hsub
  objects := h.objects.imp fun _ _ ho => ho.mono hsub

/-! ## Lookups -/

/-- Searching two lists in step. -/
theorem find?_forall₂ {α β : Type} {R : α → β → Prop} {p : α → Bool} {q : β → Bool}
    (hpq : ∀ a b, R a b → p a = q b) {l : List α} {l' : List β} (h : Forall₂ R l l') :
    Option.Rel R (l.find? p) (l'.find? q) := by
  induction h with
  | nil => exact .none
  | @cons a b l l' hab _ ih =>
    rw [List.find?_cons, List.find?_cons, hpq a b hab]
    cases q b with
    | true => exact .some hab
    | false => exact ih

namespace Paired

variable {bucket bucket' : BucketId} {id id' : ObjectId}

theorem bucket?_rel (h : Paired ρ ids ids' m m') (hb : Renaming.Named ρ.buckets bucket bucket') :
    Option.Rel (SameBucket ρ) (m.bucket? bucket) (m'.bucket? bucket') := by
  refine find?_forall₂ (fun b b' hbb => ?_) h.buckets
  rw [Bool.eq_iff_iff, beq_iff_eq, beq_iff_eq]
  exact hb.eq_iff h.oneBuckets hbb.info.id

theorem object?_rel (h : Paired ρ ids ids' m m') (hb : Renaming.Named ρ.buckets bucket bucket')
    (hid : Renaming.Named ρ.objects id id') :
    Option.Rel (SameObject ρ) (m.object? bucket id) (m'.object? bucket' id') := by
  have hfound := h.bucket?_rel hb
  simp only [Store.object?]
  generalize m.bucket? bucket = found at hfound ⊢
  generalize m'.bucket? bucket' = found' at hfound ⊢
  cases hfound with
  | none => exact .none
  | some hbb =>
    refine find?_forall₂ (fun o o' hoo => ?_) hbb.objects
    rw [Bool.eq_iff_iff, beq_iff_eq, beq_iff_eq]
    exact hid.eq_iff h.oneObjects hoo.info.id

/-- Objects that are the same but for keys satisfy the same filters. -/
theorem satisfies_eq {o o' : StoredObject} (h : SameObject ρ o o') (f : SearchFilter) :
    o.satisfies f = o'.satisfies f := by
  cases f with
  | root => exact h.parent
  | _ => simp [StoredObject.satisfies, h.info.attributes]

/-! ## Changes -/

/-- The same change of the objects of one bucket on either side. -/
theorem onObjects (h : Paired ρ ids ids' m m') (hb : Renaming.Named ρ.buckets bucket bucket')
    {f f' : List StoredObject → List StoredObject}
    (hf : ∀ l l', Forall₂ (SameObject ρ) l l' → Forall₂ (SameObject ρ) (f l) (f' l')) :
    Paired ρ ids ids' (m.onObjects bucket f) (m'.onObjects bucket' f') := by
  refine { h with buckets := List.rel_map (fun b b' hbb => ?_) h.buckets }
  have hiff := hb.eq_iff h.oneBuckets hbb.info.id
  by_cases hid : b.info.id = bucket
  · rw [if_pos hid, if_pos (hiff.mp hid)]
    exact ⟨hbb.info, hf _ _ hbb.objects⟩
  · rw [if_neg hid, if_neg fun hid' => hid (hiff.mpr hid')]
    exact hbb

theorem removeObject (h : Paired ρ ids ids' m m')
    (hb : Renaming.Named ρ.buckets bucket bucket') (hid : Renaming.Named ρ.objects id id') :
    Paired ρ ids ids' (m.removeObject bucket id) (m'.removeObject bucket' id') := by
  refine h.onObjects hb fun l l' hl => List.rel_filter (fun o o' hoo => ?_) hl
  simp only [bne_iff_ne]
  exact not_congr (hid.eq_iff h.oneObjects hoo.info.id)

theorem removeBucket (h : Paired ρ ids ids' m m')
    (hb : Renaming.Named ρ.buckets bucket bucket') :
    Paired ρ ids ids' (m.removeBucket bucket) (m'.removeBucket bucket') := by
  refine { h with buckets := List.rel_filter (fun b b' hbb => ?_) h.buckets }
  simp only [bne_iff_ne]
  exact not_congr (hb.eq_iff h.oneBuckets hbb.info.id)

/-- Both supplies have handed out more keys. -/
theorem of_extends (h : Paired ρ ids ids' m m') {more more' : IdSupply}
    (hmore : more.Extends ids) (hmore' : more'.Extends ids') : Paired ρ more more' m m' :=
  { h with
    issuedBuckets := fun p hp =>
      ⟨(h.issuedBuckets p hp).1.of_extends hmore, (h.issuedBuckets p hp).2.of_extends hmore'⟩
    issuedObjects := fun p hp =>
      ⟨(h.issuedObjects p hp).1.of_extends hmore, (h.issuedObjects p hp).2.of_extends hmore'⟩ }

/-- A key is drawn for a bucket on either side. -/
theorem drawBucket (h : Paired ρ ids ids' m m') (hd : (ids.draw .bucket).2.Distinct)
    (hd' : (ids'.draw .bucket).2.Distinct) :
    Paired { ρ with buckets := ρ.buckets ++ [((ids.draw .bucket).1, (ids'.draw .bucket).1)] }
      (ids.draw .bucket).2 (ids'.draw .bucket).2 m m' := by
  have hlater := h.of_extends (ids.extends_draw .bucket) (ids'.extends_draw .bucket)
  refine ⟨h.buckets.imp fun _ _ hbb => hbb.mono ⟨by simp, by simp⟩, ?_, h.oneObjects, ?_,
    hlater.issuedObjects⟩
  · exact h.oneBuckets.append (fun p hp => (h.issuedBuckets p hp).1.ne_draw hd)
      (fun p hp => (h.issuedBuckets p hp).2.ne_draw hd')
  · intro p hp
    obtain hp | rfl := List.mem_append.mp hp |>.imp_right List.mem_singleton.mp
    · exact hlater.issuedBuckets p hp
    · exact ⟨ids.issued_draw .bucket, ids'.issued_draw .bucket⟩

/-- A key is drawn for an object on either side. -/
theorem drawObject (h : Paired ρ ids ids' m m') (hd : (ids.draw .object).2.Distinct)
    (hd' : (ids'.draw .object).2.Distinct) :
    Paired { ρ with objects := ρ.objects ++ [((ids.draw .object).1, (ids'.draw .object).1)] }
      (ids.draw .object).2 (ids'.draw .object).2 m m' := by
  have hlater := h.of_extends (ids.extends_draw .object) (ids'.extends_draw .object)
  refine ⟨h.buckets.imp fun _ _ hbb => hbb.mono ⟨by simp, by simp⟩, h.oneBuckets, ?_,
    hlater.issuedBuckets, ?_⟩
  · exact h.oneObjects.append (fun p hp => (h.issuedObjects p hp).1.ne_draw hd)
      (fun p hp => (h.issuedObjects p hp).2.ne_draw hd')
  · intro p hp
    obtain hp | rfl := List.mem_append.mp hp |>.imp_right List.mem_singleton.mp
    · exact hlater.issuedObjects p hp
    · exact ⟨ids.issued_draw .object, ids'.issued_draw .object⟩

theorem addBucket (h : Paired ρ ids ids' m m') {b b' : StoredBucket} (hb : SameBucket ρ b b') :
    Paired ρ ids ids' (m.addBucket b) (m'.addBucket b') :=
  { h with buckets := List.rel_append h.buckets (.cons hb .nil) }

theorem addObject (h : Paired ρ ids ids' m m') {o o' : StoredObject} (ho : SameObject ρ o o') :
    Paired ρ ids ids' (m.addObject o) (m'.addObject o') :=
  h.onObjects (.inl ho.info.bucket) fun _ _ hl => List.rel_append hl (.cons ho .nil)

end Paired

/-! ## Calls -/

/-- What two calls side by side come to: corresponding answers, and stores that are the
same but for keys. -/
structure Alongside (ρ : Renaming) {c c' : Command} (r : Call (World Store) c.Answer)
    (r' : Call (World Store) c'.Answer) : Prop where
  answers : ∃ answer answer', r.answer = some answer ∧ r'.answer = some answer' ∧
    (ρ.learn c c' r.answer r'.answer).Answers c c' answer answer'
  stores : Paired (ρ.learn c c' r.answer r'.answer) r.after.host.ids r'.after.host.ids
    r.after.store r'.after.store

variable {w w' : World Store} {c c' : Command}

theorem serve_alongside (h : Paired ρ w.host.ids w'.host.ids w.store w'.store)
    (hw : w.store.Healthy) (hw' : w'.store.Healthy) (hc : c.Corresponds ρ c')
    (hd : (serve w c).after.host.ids.Distinct) (hd' : (serve w' c').after.host.ids.Distinct) :
    Alongside ρ (serve w c) (serve w' c') := by
  -- Both sides find partners or find nothing, so every case comes to these two.
  cases hc with
  | @headObject bucket bucket' id id' hb hid =>
    have hrel := h.object?_rel hb hid
    refine ⟨⟨_, _, rfl, rfl, ?_⟩, h⟩
    simp only [Store.head, hw.2, hw'.2]
    generalize w.store.object? bucket id = found at hrel
    generalize w'.store.object? bucket' id' = found' at hrel
    cases hrel with
    | none => exact .error _
    | some ho => exact .ok ho.info
  | @getRange bucket bucket' id id' hb hid offset length =>
    have hrel := h.object?_rel hb hid
    refine ⟨⟨_, _, rfl, rfl, ?_⟩, h⟩
    simp only [Store.range]
    generalize w.store.object? bucket id = found at hrel
    generalize w'.store.object? bucket' id' = found' at hrel
    cases hrel with
    | none => exact .error _
    | some ho =>
      simp only [ho.payload]
      split
      · exact .ok rfl
      · exact .error _
  | @searchObjects bucket bucket' hb filters =>
    have hrel := h.bucket?_rel hb
    refine ⟨⟨_, _, rfl, rfl, ?_⟩, h⟩
    simp only [Store.search]
    generalize w.store.bucket? bucket = found at hrel
    generalize w'.store.bucket? bucket' = found' at hrel
    cases hrel with
    | none => exact .error _
    | some hbb =>
      refine .ok (List.rel_map (fun _ _ ho => ho.info.id)
        (List.rel_filter (fun o o' ho => ?_) hbb.objects))
      have hall : filters.all o.satisfies = filters.all o'.satisfies :=
        congrArg filters.all (funext fun f => Paired.satisfies_eq ho f)
      simp only [hall]
  | @getBucket id id' hid =>
    have hrel := h.bucket?_rel hid
    refine ⟨⟨_, _, rfl, rfl, ?_⟩, h⟩
    generalize w.store.bucket? id = found at hrel
    generalize w'.store.bucket? id' = found' at hrel
    cases hrel with
    | none => exact .error _
    | some hbb => exact .ok hbb.info
  | listBuckets owner =>
    refine ⟨⟨_, _, rfl, rfl, .ok ?_⟩, h⟩
    refine List.rel_map (fun _ _ hbb => hbb.info.id) (List.rel_filter (fun b b' hbb => ?_) h.buckets)
    simp only [hbb.info.owner]
  | putBucket header =>
    refine ⟨⟨_, _, rfl, rfl, .ok ?_⟩, ?_⟩
    · exact List.mem_append_right _ (List.mem_singleton_self _)
    · refine (h.drawBucket hd hd').addBucket ⟨⟨?_, rfl, rfl, rfl, rfl⟩, .nil⟩
      exact List.mem_append_right _ (List.mem_singleton_self _)
  | @deleteBucket id id' hid =>
    have hrel := h.bucket?_rel hid
    simp only [serve] at hd hd' ⊢
    generalize w.store.bucket? id = found at hrel
    generalize w'.store.bucket? id' = found' at hrel
    cases hrel with
    | none => exact ⟨⟨_, _, rfl, rfl, .error _⟩, h⟩
    | some hbb => exact ⟨⟨_, _, rfl, rfl, .ok trivial⟩, h.removeBucket hid⟩
  | @deleteObject bucket bucket' id id' hb hid =>
    have hrel := h.object?_rel hb hid
    simp only [serve] at hd hd' ⊢
    generalize w.store.object? bucket id = found at hrel
    generalize w'.store.object? bucket' id' = found' at hrel
    cases hrel with
    | none => exact ⟨⟨_, _, rfl, rfl, .error _⟩, h⟩
    | some ho => exact ⟨⟨_, _, rfl, rfl, .ok trivial⟩, h.removeObject hb hid⟩
  | @putObject bucket bucket' parent parent' payload payload' chunks chunks' hb hparent owner
      attributes hpayload hpayload' hbytes =>
    have hrel := h.bucket?_rel hb
    simp only [serve, hpayload, hpayload', upload] at hd hd' ⊢
    generalize hfound : w.store.bucket? bucket = found at hrel hd ⊢
    generalize hfound' : w'.store.bucket? bucket' = found' at hrel hd' ⊢
    cases hrel with
    | none => exact ⟨⟨_, _, rfl, rfl, .error _⟩, h⟩
    | @some b b' hbb =>
      obtain ⟨-, rfl⟩ := Store.bucket?_eq_some hfound
      obtain ⟨-, rfl⟩ := Store.bucket?_eq_some hfound'
      have hnew := List.mem_append_right ρ.objects
        (List.mem_singleton_self ((w.host.draw .object).1, (w'.host.draw .object).1))
      have hparents : parent.isNone = parent'.isNone := by
        cases hparent <;> rfl
      refine ⟨⟨_, _, rfl, rfl, .ok hnew⟩, ?_⟩
      let o : StoredObject := ⟨⟨(w.host.draw .object).1, b.info.id, owner,
        chunks.flatten.length, attributes⟩, parent, chunks.flatten⟩
      let o' : StoredObject := ⟨⟨(w'.host.draw .object).1, b'.info.id, owner,
        chunks'.flatten.length, attributes⟩, parent', chunks'.flatten⟩
      have hsame : SameObject { ρ with objects := ρ.objects ++
          [((w.host.draw .object).1, (w'.host.draw .object).1)] } o o' :=
        ⟨⟨hnew, hbb.info.id, rfl, congrArg List.length hbytes, rfl⟩, hparents, hbytes⟩
      exact { (h.drawObject hd hd').addObject hsame with }

end ObjectGateway.Memory
