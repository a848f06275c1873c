import ObjectGateway.Entry
import ObjectGateway.Proofs.Backend.Program
import ObjectGateway.Proofs.Backend.Renaming
/-!
# Programs in step

Two programs are in step when they are the same but for keys: they give the same commands
but for keys, and go on in step when they are told the same but for keys. Run on worlds
whose calls are answered like that, they end with the same result but for keys.
-/
namespace ObjectGateway

-- ---------------------------------------------------------------------------
-- What clients say and are told
-- ---------------------------------------------------------------------------

namespace Renaming

section

variable {α : Type} {pairs : List (α × α)} {x y : α}

/-- Identifiers that clients may use side by side: partners, or one that is nobody's
partner. -/
def Spoken (pairs : List (α × α)) (x y : α) : Prop :=
  (x, y) ∈ pairs ∨ x = y ∧ x ∉ pairs.map Prod.fst ∧ y ∉ pairs.map Prod.snd

theorem Spoken.named (h : Spoken pairs x y) : Named pairs x y :=
  h.imp_right And.right

end

variable {ρ later : Renaming}

theorem Spoken.bucket {id id' : BucketId} (h : (id, id') ∈ ρ.buckets) : Spoken ρ.buckets id id' :=
  .inl h

theorem Spoken.object {id id' : ObjectId} (h : (id, id') ∈ ρ.objects) : Spoken ρ.objects id id' :=
  .inl h

/-- Texts that are the same, or that end in the texts of partners. -/
inductive Texts (ρ : Renaming) : String → String → Prop
  | same (text : String) : Texts ρ text text
  | bucket {id id' : BucketId} {text text' : String} (h : (id, id') ∈ ρ.buckets)
      (hread : Id.parse? text = some id) (hread' : Id.parse? text' = some id') (front : String) :
      Texts ρ (front ++ text) (front ++ text')
  | object {id id' : ObjectId} {text text' : String} (h : (id, id') ∈ ρ.objects)
      (hread : Id.parse? text = some id) (hread' : Id.parse? text' = some id') (front : String) :
      Texts ρ (front ++ text) (front ++ text')

theorem Texts.ofObject {id id' : ObjectId} (h : (id, id') ∈ ρ.objects) :
    ρ.Texts id.text id'.text := by
  simpa using Texts.object h (Id.parse?_text id) (Id.parse?_text id') ""

theorem Texts.mono (hsub : ρ.Sub later) {text text' : String} (h : ρ.Texts text text') :
    later.Texts text text' := by
  cases h with
  | same => exact .same _
  | bucket h hread hread' front => exact .bucket (hsub.buckets h) hread hread' front
  | object h hread hread' front => exact .object (hsub.objects h) hread hread' front

end Renaming

namespace FsError

def path : FsError → String
  | notFound path | permissionDenied path | unsupported path _ | invalid path _ | notAFile path
  | notADirectory path | alreadyExists path | cancelled path | timedOut _ path | staging path _
  | backend _ path _ => path

def withPath (path : String) : FsError → FsError
  | notFound _ => notFound path
  | permissionDenied _ => permissionDenied path
  | unsupported _ reason => unsupported path reason
  | invalid _ reason => invalid path reason
  | notAFile _ => notAFile path
  | notADirectory _ => notADirectory path
  | alreadyExists _ => alreadyExists path
  | cancelled _ => cancelled path
  | timedOut operation _ => timedOut operation path
  | staging _ cause => staging path cause
  | backend operation _ cause => backend operation path cause

end FsError

-- ---------------------------------------------------------------------------
-- Manners of asking
-- ---------------------------------------------------------------------------

/-- What gateways that run side by side may ask for besides partners, and how the texts may
differ that they show. -/
structure Manner where
  /-- Identifiers by which buckets are asked for. -/
  bucket : Renaming → BucketId → BucketId → Prop
  /-- Identifiers by which heads of objects are asked for. -/
  object : Renaming → ObjectId → ObjectId → Prop
  /-- What objects are searched by. -/
  search : List SearchFilter → Prop
  /-- The texts that failures and readers show. -/
  texts : Renaming → String → String → Prop
  /-- The texts that writers show. -/
  names : Renaming → String → String → Prop
  bucket_of_mem : ∀ {ρ id id'}, (id, id') ∈ ρ.buckets → bucket ρ id id'
  spoken_bucket : ∀ {ρ id id'}, bucket ρ id id' → Renaming.Spoken ρ.buckets id id'
  object_of_mem : ∀ {ρ id id'}, (id, id') ∈ ρ.objects → object ρ id id'
  spoken_object : ∀ {ρ id id'}, object ρ id id' → Renaming.Spoken ρ.objects id id'
  search_of_root : ∀ {filters}, .root ∈ filters → search filters
  texts_of_plain : ∀ {ρ text text'}, ρ.Texts text text' → texts ρ text text'
  texts_of_names : ∀ {ρ text text'}, names ρ text text' → texts ρ text text'
  texts_mono : ∀ {ρ later text text'}, ρ.Sub later → texts ρ text text' → texts later text text'
  names_mono : ∀ {ρ later text text'}, ρ.Sub later → names ρ text text' → names later text text'

namespace Manner

variable {α β : Type} {M : Manner} {ρ later : Renaming}

theorem same (M : Manner) (ρ : Renaming) (text : String) : M.texts ρ text text :=
  M.texts_of_plain (.same text)

structure Errors (M : Manner) (ρ : Renaming) (e e' : FsError) : Prop where
  path : M.texts ρ e.path e'.path
  same : e'.withPath e.path = e

theorem Errors.mono (hsub : ρ.Sub later) {e e' : FsError} (h : M.Errors ρ e e') :
    M.Errors later e e' :=
  ⟨M.texts_mono hsub h.path, h.same⟩

theorem Errors.ofBackend {path path' : String} (hpath : M.texts ρ path path')
    (operation : String) (cause : BackendError) :
    M.Errors ρ (.ofBackend operation path cause) (.ofBackend operation path' cause) := by
  cases cause with
  | _ => exact ⟨hpath, rfl⟩

/-- Operations end alike: with results that are related, or with the same failure. -/
inductive Ends (M : Manner) (ρ : Renaming) (Q : α → β → Prop) :
    Except FsError α → Except FsError β → Prop
  | ok {a : α} {b : β} (h : Q a b) : Ends M ρ Q (.ok a) (.ok b)
  | error {e e' : FsError} (h : M.Errors ρ e e') : Ends M ρ Q (.error e) (.error e')

theorem Ends.mono {Q Q' : α → β → Prop} (hsub : ρ.Sub later) (hQ : ∀ a b, Q a b → Q' a b)
    {r : Except FsError α} {r' : Except FsError β} (h : M.Ends ρ Q r r') :
    M.Ends later Q' r r' := by
  cases h with
  | ok h => exact .ok (hQ _ _ h)
  | error h => exact .error (h.mono hsub)

end Manner

-- ---------------------------------------------------------------------------
-- Commands side by side
-- ---------------------------------------------------------------------------

def BucketMeta.name (info : BucketMeta) : String :=
  (info.attributes.get? Attributes.nameKey).getD info.id.text

def ObjectMeta.name (info : ObjectMeta) : String :=
  (info.attributes.get? Attributes.fileNameKey).getD info.id.text

/-- Streams of the same bytes, or streams that break off with the same failure. -/
inductive PayloadStream.Alike (s s' : PayloadStream) : Prop
  | complete {chunks chunks' : List Bytes} (h : s.drain = .complete chunks)
      (h' : s'.drain = .complete chunks') (hbytes : chunks.flatten = chunks'.flatten)
  | broken {cause : IoError} (h : s.drain = .failed cause) (h' : s'.drain = .failed cause)

namespace Command

/-- The commands that gateways of one owner give side by side. They name partners, but for what
may be asked for besides. -/
inductive Beside (M : Manner) (owner : OwnerId) (ρ : Renaming) : Command → Command → Prop
  | headObject {bucket bucket' : BucketId} {id id' : ObjectId}
      (hbucket : (bucket, bucket') ∈ ρ.buckets) (hid : M.object ρ id id') :
      Beside M owner ρ (.headObject bucket id) (.headObject bucket' id')
  | getRange {bucket bucket' : BucketId} {id id' : ObjectId}
      (hbucket : (bucket, bucket') ∈ ρ.buckets) (hid : (id, id') ∈ ρ.objects)
      (offset length : Nat) :
      Beside M owner ρ (.getRange bucket id offset length) (.getRange bucket' id' offset length)
  | putObject {bucket bucket' : BucketId} {payload payload' : PayloadStream}
      (hbucket : (bucket, bucket') ∈ ρ.buckets) (hpayload : payload.Alike payload')
      (name : String) (now : Int) :
      Beside M owner ρ
        (.putObject { bucket, owner, attributes := .named Attributes.fileNameKey name now } payload)
        (.putObject
          { bucket := bucket', owner, attributes := .named Attributes.fileNameKey name now }
          payload')
  | deleteObject {bucket bucket' : BucketId} {id id' : ObjectId}
      (hbucket : (bucket, bucket') ∈ ρ.buckets) (hid : (id, id') ∈ ρ.objects) :
      Beside M owner ρ (.deleteObject bucket id) (.deleteObject bucket' id')
  | searchObjects {bucket bucket' : BucketId} (hbucket : (bucket, bucket') ∈ ρ.buckets)
      {filters : List SearchFilter} (hfilters : M.search filters) :
      Beside M owner ρ (.searchObjects bucket filters) (.searchObjects bucket' filters)
  | getBucket {id id' : BucketId} (hid : M.bucket ρ id id') :
      Beside M owner ρ (.getBucket id) (.getBucket id')
  | listBuckets : Beside M owner ρ (.listBuckets owner) (.listBuckets owner)
  | putBucket (policy : String) (acl : Acl) (name : String) (now : Int) :
      Beside M owner ρ
        (.putBucket { owner, policy, acl, attributes := .named Attributes.nameKey name now })
        (.putBucket { owner, policy, acl, attributes := .named Attributes.nameKey name now })
  | deleteBucket {id id' : BucketId} (hid : (id, id') ∈ ρ.buckets) :
      Beside M owner ρ (.deleteBucket id) (.deleteBucket id')

/-- The display name that an answer tells. -/
def told : (c : Command) → c.Answer → Option String
  | .headObject .., info => some info.name
  | .getBucket .., info => some info.name
  | _, _ => none

theorem Beside.name_eq {M : Manner} {owner : OwnerId} {ρ : Renaming} {c c' : Command}
    (h : c.Beside M owner ρ c') : c.name = c'.name := by
  cases h <;> rfl

theorem Beside.isMutating_eq {M : Manner} {owner : OwnerId} {ρ : Renaming} {c c' : Command}
    (h : c.Beside M owner ρ c') : c.isMutating = c'.isMutating := by
  cases h <;> rfl

end Command

/-- Two calls are told the same but for identifiers: the same display names, too. -/
structure Renaming.Told (ρ : Renaming) (c c' : Command) (r : Except BackendError c.Answer)
    (r' : Except BackendError c'.Answer) : Prop where
  answers : ρ.Answers c c' r r'
  names : ∀ a a', r = .ok a → r' = .ok a' → c.told a = c'.told a'

-- ---------------------------------------------------------------------------
-- Programs
-- ---------------------------------------------------------------------------

variable {α β γ δ : Type} {M : Manner} {owner : OwnerId} {opens : Option String → Prop}

/-- The programs give commands side by side, open files in the same directories, all of them
among `opens`, and end in `Q`, as long as they are told the same but for identifiers. -/
def Program.InStep (M : Manner) (owner : OwnerId) (opens : Option String → Prop)
    (Q : Renaming → α → β → Prop) : Renaming → Program α → Program β → Prop
  | ρ, .done a, .done b => Q ρ a b
  | ρ, .call c next, .call c' next' => c.Beside M owner ρ c' ∧
    ∀ r r', (ρ.learn c c' (some r) (some r')).Told c c' r r' →
      InStep M owner opens Q (ρ.learn c c' (some r) (some r')) (next r) (next' r')
  | ρ, .host (.openUnnamed dir) next, .host (.openUnnamed dir') next' => dir = dir' ∧ opens dir ∧
    ∀ r, InStep M owner opens Q ρ (next r) (next' r)
  | _, _, _ => False

namespace Program

variable {ρ : Renaming} {Q Q' : Renaming → α → β → Prop} {p : Program α} {p' : Program β}

theorem InStep.bind {R : Renaming → γ → δ → Prop} {k : α → Program γ} {k' : β → Program δ}
    (hp : InStep M owner opens Q ρ p p')
    (hk : ∀ later a b, Q later a b → InStep M owner opens R later (k a) (k' b)) :
    InStep M owner opens R ρ (p.bind k) (p'.bind k') := by
  -- Both trees have the same shape, so the second is taken apart as the first one is.
  induction p generalizing ρ p' with
  | done a =>
    cases p' with
    | done b => exact hk ρ a b hp
    | _ => exact hp.elim
  | call c next ih =>
    cases p' with
    | call c' next' => exact ⟨hp.1, fun r r' htold => ih r (hp.2 r r' htold)⟩
    | _ => exact hp.elim
  | host a next ih =>
    cases a with
    | openUnnamed dir =>
      cases p' with
      | host a' next' =>
        cases a' with
        | openUnnamed dir' => exact ⟨hp.1, hp.2.1, fun r => ih r (hp.2.2 r)⟩
        | _ => exact hp.elim
      | _ => exact hp.elim
    | _ => exact hp.elim

theorem InStep.mono (hp : InStep M owner opens Q ρ p p')
    (hQ : ∀ later a b, Q later a b → Q' later a b) : InStep M owner opens Q' ρ p p' := by
  rw [← bind_done p, ← bind_done p']
  exact hp.bind hQ

end Program

-- ---------------------------------------------------------------------------
-- Operations
-- ---------------------------------------------------------------------------

namespace FsProgram

/-- The operations are in step and end alike, with results in `Q` if they succeed. However they
end, `K` is true of the renaming then. -/
def InStep (M : Manner) (owner : OwnerId) (opens : Option String → Prop) (K : Renaming → Prop)
    (Q : Renaming → α → β → Prop) (ρ : Renaming) (p : FsProgram α) (p' : FsProgram β) : Prop :=
  Program.InStep M owner opens (fun later r r' => K later ∧ M.Ends later (Q later) r r') ρ
    p.run p'.run

/-- They create nothing, so the renaming stays as it is. -/
def FixedInStep (M : Manner) (owner : OwnerId) (opens : Option String → Prop) (ρ : Renaming)
    (Q : α → β → Prop) (p : FsProgram α) (p' : FsProgram β) : Prop :=
  InStep M owner opens (· = ρ) (fun _ => Q) ρ p p'

variable {K : Renaming → Prop} {ρ : Renaming} {Q : Renaming → α → β → Prop}
  {R : Renaming → γ → δ → Prop} {S : α → β → Prop} {T : γ → δ → Prop} {p : FsProgram α}
  {p' : FsProgram β} {k : α → FsProgram γ} {k' : β → FsProgram δ}

theorem InStep.pure {a : α} {b : β} (hK : K ρ) (h : Q ρ a b) :
    InStep M owner opens K Q ρ (pure a) (pure b) :=
  ⟨hK, .ok h⟩

theorem InStep.throw {e e' : FsError} (hK : K ρ) (h : M.Errors ρ e e') :
    InStep M owner opens K Q ρ (throw e) (throw e') :=
  ⟨hK, .error h⟩

theorem InStep.bind (hp : InStep M owner opens K Q ρ p p')
    (hk : ∀ later a b, K later → Q later a b → InStep M owner opens K R later (k a) (k' b)) :
    InStep M owner opens K R ρ (p >>= k) (p' >>= k') := by
  refine Program.InStep.bind hp ?_
  rintro later r r' ⟨hK, hends⟩
  cases hends with
  | ok h => exact hk later _ _ hK h
  | error h => exact ⟨hK, .error h⟩

theorem InStep.map {f : α → γ} {f' : β → δ} (hp : InStep M owner opens K Q ρ p p')
    (hf : ∀ later a b, K later → Q later a b → R later (f a) (f' b)) :
    InStep M owner opens K R ρ (f <$> p) (f' <$> p') := by
  rw [map_eq_pure_bind, map_eq_pure_bind]
  exact hp.bind fun later a b hK h => .pure hK (hf later a b hK h)

/-- Nothing follows a failure. -/
theorem InStep.throw_bind {e e' : FsError} (hK : K ρ) (h : M.Errors ρ e e') :
    InStep M owner opens K R ρ ((MonadExcept.throw e : FsProgram α) >>= k)
      ((MonadExcept.throw e' : FsProgram β) >>= k') :=
  ⟨hK, .error h⟩

theorem InStep.call {path path' : String} {c c' : Command}
    {Q : Renaming → c.Answer → c'.Answer → Prop} (hc : c.Beside M owner ρ c')
    (hpath : M.texts ρ path path') (hK : ∀ r r', K (ρ.learn c c' r r'))
    (hQ : ∀ a a', (ρ.learn c c' (some (.ok a)) (some (.ok a'))).Results c c' a a' →
      c.told a = c'.told a' → Q (ρ.learn c c' (some (.ok a)) (some (.ok a'))) a a') :
    InStep M owner opens K Q ρ (FsProgram.call path c) (FsProgram.call path' c') := by
  refine ⟨hc, ?_⟩
  rintro r r' ⟨hanswers, hnames⟩
  cases hanswers with
  | ok hresult => exact ⟨hK _ _, .ok (hQ _ _ hresult (hnames _ _ rfl rfl))⟩
  | error cause =>
    rw [← hc.name_eq]
    exact ⟨hK _ _, .error ((Manner.Errors.ofBackend hpath _ cause).mono (ρ.sub_learn _ _ _ _))⟩

theorem FixedInStep.bind (hp : FixedInStep M owner opens ρ S p p') (hK : K ρ)
    (hk : ∀ a b, S a b → InStep M owner opens K R ρ (k a) (k' b)) :
    InStep M owner opens K R ρ (p >>= k) (p' >>= k') := by
  refine InStep.bind (Q := fun later a b => later = ρ ∧ S a b) (Program.InStep.mono hp ?_) ?_
  · rintro later r r' ⟨rfl, hends⟩
    exact ⟨hK, hends.mono (.refl later) fun _ _ h => ⟨rfl, h⟩⟩
  · rintro later a b - ⟨rfl, h⟩
    exact hk a b h

theorem FixedInStep.map {f : α → γ} {f' : β → δ} (hp : FixedInStep M owner opens ρ S p p')
    (hK : K ρ) (hf : ∀ a b, S a b → R ρ (f a) (f' b)) :
    InStep M owner opens K R ρ (f <$> p) (f' <$> p') := by
  rw [map_eq_pure_bind, map_eq_pure_bind]
  exact hp.bind hK fun a b h => .pure hK (hf a b h)

/-- Loops over lists that are related item by item. -/
theorem FixedInStep.mapM {f : α → FsProgram γ} {f' : β → FsProgram δ} {xs : List α} {ys : List β}
    (h : List.Forall₂ S xs ys) (hf : ∀ x y, S x y → FixedInStep M owner opens ρ T (f x) (f' y)) :
    FixedInStep M owner opens ρ (List.Forall₂ T) (xs.mapM f) (ys.mapM f') := by
  induction h with
  | nil => exact .pure rfl .nil
  | cons hxy _ ih =>
    rw [List.mapM_cons, List.mapM_cons]
    exact (hf _ _ hxy).bind rfl fun a b hab => ih.bind rfl fun as bs h => .pure rfl (.cons hab h)

/-- A directory is opened alike. -/
theorem InStep.openUnnamed {dir : Option String} {k : Except IoError Unit → FsProgram γ}
    {k' : Except IoError Unit → FsProgram δ} (hdir : opens dir)
    (hok : InStep M owner opens K R ρ (k (.ok ())) (k' (.ok ())))
    (herror : ∀ cause, InStep M owner opens K R ρ (k (.error cause)) (k' (.error cause))) :
    InStep M owner opens K R ρ (FsProgram.host (.openUnnamed dir) >>= k)
      (FsProgram.host (.openUnnamed dir) >>= k') := by
  refine ⟨rfl, hdir, fun r => ?_⟩
  cases r with
  | ok => exact hok
  | error cause => exact herror cause

end FsProgram

-- ---------------------------------------------------------------------------
-- Runs in step
-- ---------------------------------------------------------------------------

/-- A relation of two worlds that lasts while commands of the kind `A` are given side by side:
calls are answered the same but for identifiers, and what may be opened is opened alike. Of the
keys that are drawn on either side something is known, which is true before it is true later. -/
structure Lasts {σ : Type} (b : Backend (World σ)) (ctx : Context) (M : Manner) (owner : OwnerId)
    (A : Command → Prop) (opens : Option String → Prop) (known known' : IdSupply → Prop)
    (R : Renaming → World σ → World σ → Prop) : Prop where
  call : ∀ {ρ w w' c c'}, A c → c.Beside M owner ρ c' → R ρ w w' →
    known (ctx.settle w (b.call c w)).2.host.ids →
    known' (ctx.settle w' (b.call c' w')).2.host.ids →
    (ρ.learn c c' (some (ctx.settle w (b.call c w)).1) (some (ctx.settle w' (b.call c' w')).1)).Told
        c c' (ctx.settle w (b.call c w)).1 (ctx.settle w' (b.call c' w')).1 ∧
      R (ρ.learn c c' (some (ctx.settle w (b.call c w)).1)
          (some (ctx.settle w' (b.call c' w')).1))
        (ctx.settle w (b.call c w)).2 (ctx.settle w' (b.call c' w')).2
  opened : ∀ {ρ w w' dir}, opens dir → R ρ w w' →
    (HostAction.perform w.host (.openUnnamed dir)).1 =
      (HostAction.perform w'.host (.openUnnamed dir)).1
  before : ∀ {ids ids'}, ids'.Extends ids → known ids' → known ids
  before' : ∀ {ids ids'}, ids'.Extends ids → known' ids' → known' ids

/-- Programs in step, run on worlds that are related, end in what they end in. -/
theorem Program.InStep.run {σ : Type} {b : Backend (World σ)}
    {holds : World σ → Memory.Store → Prop} (hb : Faithful b holds) {ctx : Context}
    {A : Command → Prop} {known known' : IdSupply → Prop}
    {R : Renaming → World σ → World σ → Prop} (hR : Lasts b ctx M owner A opens known known' R)
    {P : α → Prop} {Q : Renaming → α → β → Prop} {ρ : Renaming} {p : Program α} {p' : Program β}
    (hp : InStep M owner opens Q ρ p p') (hA : p.Confined A P) {w w' : World σ} (h : R ρ w w')
    (hknown : known (ctx.run b p w).2.host.ids) (hknown' : known' (ctx.run b p' w').2.host.ids) :
    ∃ later, ρ.Sub later ∧ R later (ctx.run b p w).2 (ctx.run b p' w').2 ∧
      Q later (ctx.run b p w).1 (ctx.run b p' w').1 := by
  induction p generalizing ρ p' w w' with
  | done a =>
    cases p' with
    | done b => exact ⟨ρ, .refl ρ, h, hp⟩
    | _ => exact hp.elim
  | call c next ih =>
    cases p' with
    | call c' next' =>
      obtain ⟨htold, hafter⟩ := hR.call hA.1 hp.1 h
        (hR.before (hb.run_extends ctx _ _) hknown) (hR.before' (hb.run_extends ctx _ _) hknown')
      obtain ⟨later, hsub, hlater⟩ := ih _ (hp.2 _ _ htold) (hA.2 _) hafter hknown hknown'
      have hlearn := ρ.sub_learn c c' (some (ctx.settle w (b.call c w)).1)
        (some (ctx.settle w' (b.call c' w')).1)
      exact ⟨later, hlearn.trans hsub, hlater⟩
    | _ => exact hp.elim
  | host a next ih =>
    cases a with
    | openUnnamed dir =>
      cases p' with
      | host a' next' =>
        cases a' with
        | openUnnamed dir' =>
          obtain ⟨rfl, hdir, hnext⟩ := hp
          -- Both sides go on with the same answer, in the worlds that they are in.
          have hrun' : ctx.run b (.host (.openUnnamed dir) next') w' =
              ctx.run b (next' (HostAction.perform w.host (.openUnnamed dir)).1) w' := by
            rw [hR.opened hdir h]
            rfl
          rw [hrun'] at hknown' ⊢
          exact ih _ (hnext _) (hA _) h hknown hknown'
        | _ => exact hp.elim
      | _ => exact hp.elim
    | _ => exact hA.elim

end ObjectGateway
