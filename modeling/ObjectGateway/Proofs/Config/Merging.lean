import ObjectGateway.Config.Merge
import ObjectGateway.Proofs.Config.Settings
/-!
# Merging is exact

The settings are looked at one after the other. What a part of that leads to is judged by the
settings it looks at: either all of them are sound and it gives a value, or it gives the error
of the first one at fault. Each reader of a setting has its judgement, and those of the parts
make up that of the whole.
-/
namespace ObjectGateway.Config

-- ---------------------------------------------------------------------------
-- Faults
-- ---------------------------------------------------------------------------

namespace Setting

/-- The order in which settings are looked at. -/
def inOrder : List Setting :=
  [owner, requestTimeout, host, port, backend, storageDir, databaseUrl, stagingDir, policy,
    chunkSize, readOnly, rejectDuplicates, debugLevel, debugStderr]

theorem mem_inOrder (s : Setting) : s ∈ inOrder := by
  cases s <;> decide

end Setting

namespace Arguments

def gives (a : Arguments) : Setting → Bool
  | .host => a.host.isSome
  | .port => a.port.isSome
  | .backend => a.backend.isSome
  | .storageDir => a.storageDir.isSome
  | .databaseUrl => a.databaseUrl.isSome
  | .stagingDir => a.stagingDir.isSome
  | .owner => a.owner.isSome
  | .policy => a.policy.isSome
  | .requestTimeout => a.requestTimeout.isSome
  | .chunkSize => a.chunkSize.isSome
  | .readOnly => a.readOnly
  | .rejectDuplicates => a.rejectDuplicates
  | .debugLevel => a.debugLevel.isSome
  | .debugStderr => a.debugStderr

/-- The variables that are looked at: those of flags only where the flag is not given. -/
def Consults (a : Arguments) (s : Setting) : Prop :=
  s.isFlag = true → a.gives s = false

end Arguments

abbrev OwnerText (a : Arguments) (env : Environment) : Option String → Prop :=
  Chosen env .owner Verbatim a.owner

structure Sound (a : Arguments) (env : Environment) (s : Setting) : Prop where
  usable : a.Consults s → env.Usable s
  owner : s = .owner → ∀ raw, OwnerText a env (some raw) → ∃ id : OwnerId, Id.parse? raw = some id

inductive Fault (a : Arguments) (env : Environment) : Setting → ConfigError → Prop
  | unreadable {s : Setting} (hc : a.Consults s) (hvar : env s.variable = .unreadable) :
      Fault a env s (.unreadable s)
  | refused {s : Setting} {text : String} {e : ConfigError} (hc : a.Consults s)
      (hvar : env s.variable = .text text) (h : s.Refuses text e) : Fault a env s e
  | misnamed {raw : String} (husable : env.Usable .owner) (hraw : OwnerText a env (some raw))
      (h : (Id.parse? raw : Option OwnerId) = none) :
      Fault a env .owner (.badOwner raw)

/-- The error of the first setting that is at fault. -/
inductive FirstFault (a : Arguments) (env : Environment) : List Setting → ConfigError → Prop
  | here {s : Setting} {rest : List Setting} {e : ConfigError} (h : Fault a env s e) :
      FirstFault a env (s :: rest) e
  | later {s : Setting} {rest : List Setting} {e : ConfigError} (hs : Sound a env s)
      (h : FirstFault a env rest e) : FirstFault a env (s :: rest) e

variable {a : Arguments} {env : Environment} {s : Setting} {order : List Setting}
  {e e' : ConfigError}

theorem OwnerText.unique {raw raw' : Option String} (h : OwnerText a env raw)
    (h' : OwnerText a env raw') : raw = raw' :=
  Chosen.unique Verbatim.unique h h'

theorem Fault.not_sound (h : Fault a env s e) : ¬Sound a env s := by
  intro hs
  cases h with
  | unreadable hc hvar => exact (hs.usable hc).not_unreadable hvar
  | refused hc hvar h => exact h.not_fits ((hs.usable hc).fits hvar)
  | misnamed _ hraw h =>
    obtain ⟨id, hid⟩ := hs.owner rfl _ hraw
    rw [h] at hid
    cases hid

theorem Fault.unique (h : Fault a env s e) (h' : Fault a env s e') : e = e' := by
  cases h with
  | unreadable _ hvar =>
    cases h' with
    | unreadable => rfl
    | refused _ hvar' =>
      rw [hvar] at hvar'
      cases hvar'
    | misnamed husable => exact absurd hvar husable.not_unreadable
  | refused _ hvar h =>
    cases h' with
    | unreadable _ hvar' =>
      rw [hvar] at hvar'
      cases hvar'
    | refused _ hvar' h' =>
      rw [hvar] at hvar'
      cases hvar'
      exact h.unique h'
    | misnamed husable => exact absurd (husable.fits hvar) h.not_fits
  | misnamed husable hraw =>
    cases h' with
    | unreadable _ hvar' => exact absurd hvar' husable.not_unreadable
    | refused _ hvar' h' => exact absurd (husable.fits hvar') h'.not_fits
    | misnamed _ hraw' => rw [Option.some.inj (hraw.unique hraw')]

theorem FirstFault.not_sound (h : FirstFault a env order e) : ¬∀ s ∈ order, Sound a env s := by
  intro hall
  induction h with
  | here h => exact h.not_sound (hall _ List.mem_cons_self)
  | later _ _ ih => exact ih fun s hs => hall s (List.mem_cons_of_mem _ hs)

theorem FirstFault.unique (h : FirstFault a env order e) (h' : FirstFault a env order e') :
    e = e' := by
  induction h with
  | here h =>
    cases h' with
    | here h' => exact h.unique h'
    | later hs => exact absurd hs h.not_sound
  | later hs _ ih =>
    cases h' with
    | here h' => exact absurd hs h'.not_sound
    | later _ h' => exact ih h'

-- ---------------------------------------------------------------------------
-- Judgements
-- ---------------------------------------------------------------------------

/-- What looking at some settings leads to: a value that `P` holds of when all of them are sound,
and otherwise the error of the first that is not. -/
inductive Judged {α : Type} (a : Arguments) (env : Environment) (order : List Setting)
    (P : α → Prop) : Except ConfigError α → Prop
  | sound {v : α} (hall : ∀ s ∈ order, Sound a env s) (h : P v) : Judged a env order P (.ok v)
  | faulty {e : ConfigError} (h : FirstFault a env order e) : Judged a env order P (.error e)

section Judged

variable {α β : Type} {P : α → Prop} {Q : β → Prop} {r : Except ConfigError α}

/-- One more setting is looked at before the others. -/
theorem Judged.cons {k : α → Except ConfigError β} (h : Judged a env [s] P r)
    (hk : ∀ v, P v → Judged a env order Q (k v)) : Judged a env (s :: order) Q (r >>= k) := by
  cases h with
  | @sound v hall h =>
    have hs : Sound a env s := hall s List.mem_cons_self
    have hnext := hk v h
    show Judged a env (s :: order) Q (k v)
    generalize k v = next at hnext ⊢
    cases hnext with
    | sound hrest h => exact .sound (List.forall_mem_cons.mpr ⟨hs, hrest⟩) h
    | faulty h => exact .faulty (.later hs h)
  | faulty h =>
    cases h with
    | here h => exact .faulty (.here h)
    | later _ h => cases h

theorem Judged.ok_iff (h : Judged a env order P r) (hunique : ∀ v v', P v → P v' → v = v')
    {v : α} : r = .ok v ↔ (∀ s ∈ order, Sound a env s) ∧ P v := by
  constructor
  · rintro rfl
    cases h with
    | sound hall h => exact ⟨hall, h⟩
  · rintro ⟨hall, hv⟩
    cases h with
    | sound _ h => rw [hunique _ _ h hv]
    | faulty h => exact absurd hall h.not_sound

theorem Judged.error_iff (h : Judged a env order P r) :
    r = .error e ↔ FirstFault a env order e := by
  constructor
  · rintro rfl
    cases h with
    | faulty h => exact h
  · intro he
    cases h with
    | sound hall => exact absurd hall he.not_sound
    | faulty h => rw [h.unique he]

theorem Judged.exists_ok_iff (h : Judged a env order P r) :
    (∃ v, r = .ok v) ↔ ∀ s ∈ order, Sound a env s := by
  constructor
  · rintro ⟨v, rfl⟩
    cases h with
    | sound hall => exact hall
  · intro hall
    cases h with
    | sound => exact ⟨_, rfl⟩
    | faulty h => exact absurd hall h.not_sound

/-- A variable that is looked at is judged by how it reads, unless there is more to be said of
its text. -/
theorem Judged.of_reads (h : env.Reads s P r) (hc : a.Consults s) (hs : s ≠ .owner) :
    Judged a env [s] P r := by
  cases h with
  | usable husable h =>
    have hsound : Sound a env s := ⟨fun _ => husable, fun h => absurd h hs⟩
    exact .sound (List.forall_mem_singleton.mpr hsound) h
  | unreadable hvar => exact .faulty (.here (.unreadable hc hvar))
  | refused hvar h => exact .faulty (.here (.refused hc hvar h))

end Judged

-- ---------------------------------------------------------------------------
-- Readers
-- ---------------------------------------------------------------------------

theorem Arguments.consults_of_not_flag (a : Arguments) (hs : s.isFlag = false) : a.Consults s := by
  simp [Consults, hs]

theorem judged_text (a : Arguments) (env : Environment) (s : Setting) (hs : s.isText = true)
    (howner : s ≠ .owner) : Judged a env [s] (Chosen env s Verbatim none) (env.text? s) :=
  .of_reads (env.reads_text hs) (a.consults_of_not_flag (Setting.kind_of_isText hs).2.2) howner

theorem judged_number (a : Arguments) (env : Environment) {max : Nat} (hs : s.max? = some max) :
    Judged a env [s] (Chosen env s (Counts max) none) (env.number? s max) := by
  apply Judged.of_reads (env.reads_number hs)
  · intro hflag
    rw [Setting.max?_of_isFlag hflag] at hs
    cases hs
  · rintro rfl
    cases hs

theorem judged_backend (a : Arguments) (env : Environment) :
    Judged a env [.backend] (Chosen env .backend Names none) (env.backend? .backend) :=
  .of_reads env.reads_backend (a.consults_of_not_flag rfl) nofun

theorem judged_flag (a : Arguments) (env : Environment) (hs : s.isFlag = true) :
    Judged a env [s] (On env s (a.gives s)) (Configuration.flagOr (a.gives s) env s) := by
  have howner : s ≠ .owner := by
    rintro rfl
    cases hs
  unfold Configuration.flagOr
  split
  · rename_i hgiven
    have hsound : Sound a env s := by
      refine ⟨fun hc => ?_, fun h => absurd h howner⟩
      rw [hc hs] at hgiven
      cases hgiven
    exact .sound (List.forall_mem_singleton.mpr hsound) (by simp [On, hgiven])
  · rename_i hgiven
    have hoff : a.gives s = false := Bool.eq_false_iff.mpr hgiven
    rw [hoff]
    exact .of_reads (env.reads_flag hs) (fun _ => hoff) howner

/-- Whom a text names: the nil identity without a text. -/
inductive NamesOwner : Option String → OwnerId → Prop
  | unset : NamesOwner none Id.nil
  | text {raw : String} {id : OwnerId} (h : Id.parse? raw = some id) : NamesOwner (some raw) id

theorem judged_owner (a : Arguments) (env : Environment) :
    Judged a env [.owner] (fun id => ∃ raw, OwnerText a env raw ∧ NamesOwner raw id)
      (env.text? .owner >>= fun raw => Configuration.ownerOf (a.owner.or raw)) := by
  have hc : a.Consults .owner := a.consults_of_not_flag rfl
  have hreads := env.reads_text (s := .owner) rfl
  generalize env.text? .owner = r at hreads ⊢
  cases hreads with
  | @usable v husable h =>
    have hraw : OwnerText a env (a.owner.or v) := h.over a.owner
    show Judged a env [.owner] _ (Configuration.ownerOf (a.owner.or v))
    unfold Configuration.ownerOf
    cases hchosen : a.owner.or v with
    | none =>
      rw [hchosen] at hraw
      have hsound : Sound a env .owner :=
        ⟨fun _ => husable, fun _ _ h => nomatch hraw.unique h⟩
      exact .sound (List.forall_mem_singleton.mpr hsound) ⟨none, hraw, .unset⟩
    | some raw =>
      rw [hchosen] at hraw
      simp only
      cases hid : Id.parse? raw with
      | none => exact .faulty (.here (.misnamed husable hraw hid))
      | some id =>
        have hsound : Sound a env .owner := by
          refine ⟨fun _ => husable, fun _ raw' h => ⟨id, ?_⟩⟩
          rwa [← Option.some.inj (hraw.unique h)]
        exact .sound (List.forall_mem_singleton.mpr hsound) ⟨some raw, hraw, .text hid⟩
  | unreadable hvar => exact .faulty (.here (.unreadable hc hvar))
  | refused hvar h => exact .faulty (.here (.refused hc hvar h))

-- ---------------------------------------------------------------------------
-- The configuration
-- ---------------------------------------------------------------------------

/-- A setting is the argument if that is given, otherwise what its variable says, otherwise its
default. -/
def Settled {α : Type} (env : Environment) (s : Setting) (means : String → α → Prop)
    (given : Option α) (default v : α) : Prop :=
  ∃ chosen, Chosen env s means given chosen ∧ v = chosen.getD default

/-- The configuration is that of the arguments over the environment. -/
structure Merged (a : Arguments) (env : Environment) (c : Configuration) : Prop where
  host : Settled env .host Verbatim a.host "0.0.0.0" c.host
  port : Settled env .port (Counts Decimal.maxUInt16) a.port 3000 c.port
  backend : Settled env .backend Names a.backend .sqlite c.backend
  storageDir : Settled env .storageDir Verbatim a.storageDir "./data/objects" c.storageDir
  databaseUrl : Settled env .databaseUrl Verbatim a.databaseUrl
    "sqlite://./data/meta/bucket_fs.db" c.databaseUrl
  stagingDir : Chosen env .stagingDir Verbatim a.stagingDir c.stagingDir
  owner : ∃ raw, OwnerText a env raw ∧ NamesOwner raw c.owner
  policy : Settled env .policy Verbatim a.policy defaultPolicy c.policy
  requestTimeout : Settled env .requestTimeout (Counts Decimal.maxUInt64) a.requestTimeout 15
    c.requestTimeout
  chunkSize : ∃ size, Settled env .chunkSize (Counts Decimal.maxUInt64) a.chunkSize
    defaultMaxChunk size ∧ c.chunkSize = max size 1
  readOnly : On env .readOnly a.readOnly c.readOnly
  rejectDuplicates : On env .rejectDuplicates a.rejectDuplicates c.rejectDuplicates
  debugLevel : Settled env .debugLevel Verbatim a.debugLevel "error" c.debugLevel
  debugStderr : On env .debugStderr a.debugStderr c.debugStderr

theorem Chosen.settled {α : Type} {means : String → α → Prop} {v : Option α}
    (h : Chosen env s means none v) (given : Option α) (default : α) :
    Settled env s means given default ((given.or v).getD default) :=
  ⟨_, h.over given, rfl⟩

theorem Settled.unique {α : Type} {means : String → α → Prop} {given : Option α} {default v v' : α}
    (hmeans : ∀ text v v', means text v → means text v' → v = v')
    (h : Settled env s means given default v) (h' : Settled env s means given default v') :
    v = v' := by
  obtain ⟨_, h, rfl⟩ := h
  obtain ⟨_, h', rfl⟩ := h'
  rw [h.unique hmeans h']

theorem On.unique {given b b' : Bool} (h : On env s given b) (h' : On env s given b') : b = b' :=
  Bool.eq_iff_iff.mpr (h.trans h'.symm)

theorem NamesOwner.unique {raw : Option String} {id id' : OwnerId} (h : NamesOwner raw id)
    (h' : NamesOwner raw id') : id = id' := by
  cases h with
  | unset =>
    cases h'
    rfl
  | text h =>
    cases h' with
    | text h' => exact Option.some.inj (h.symm.trans h')

/-- Arguments and environment determine the configuration. -/
theorem Merged.unique {c c' : Configuration} (h : Merged a env c) (h' : Merged a env c') :
    c = c' := by
  obtain ⟨raw, hraw, howner⟩ := h.owner
  obtain ⟨raw', hraw', howner'⟩ := h'.owner
  obtain ⟨size, hsize, hchunk⟩ := h.chunkSize
  obtain ⟨size', hsize', hchunk'⟩ := h'.chunkSize
  obtain rfl := hraw.unique hraw'
  obtain rfl := hsize.unique Counts.unique hsize'
  have hhost := h.host.unique Verbatim.unique h'.host
  have hport := h.port.unique Counts.unique h'.port
  have hbackend := h.backend.unique Names.unique h'.backend
  have hstorage := h.storageDir.unique Verbatim.unique h'.storageDir
  have hdatabase := h.databaseUrl.unique Verbatim.unique h'.databaseUrl
  have hstaging := h.stagingDir.unique Verbatim.unique h'.stagingDir
  have hpolicy := h.policy.unique Verbatim.unique h'.policy
  have htimeout := h.requestTimeout.unique Counts.unique h'.requestTimeout
  have hlevel := h.debugLevel.unique Verbatim.unique h'.debugLevel
  have hreadOnly := h.readOnly.unique h'.readOnly
  have hreject := h.rejectDuplicates.unique h'.rejectDuplicates
  have hstderr := h.debugStderr.unique h'.debugStderr
  have hid := howner.unique howner'
  cases c
  cases c'
  simp_all

namespace Configuration

theorem judged_merge (a : Arguments) (env : Environment) :
    Judged a env Setting.inOrder (Merged a env) (merge a env) := by
  -- The text of the owner is read and parsed before anything else is looked at.
  unfold merge Setting.inOrder
  rw [← bind_assoc]
  refine (judged_owner a env).cons fun owner howner => ?_
  refine (judged_number a env rfl).cons fun timeout htimeout => ?_
  refine (judged_text a env .host rfl nofun).cons fun host hhost => ?_
  refine (judged_number a env rfl).cons fun port hport => ?_
  refine (judged_backend a env).cons fun backend hbackend => ?_
  refine (judged_text a env .storageDir rfl nofun).cons fun storage hstorage => ?_
  refine (judged_text a env .databaseUrl rfl nofun).cons fun database hdatabase => ?_
  refine (judged_text a env .stagingDir rfl nofun).cons fun staging hstaging => ?_
  refine (judged_text a env .policy rfl nofun).cons fun policy hpolicy => ?_
  refine (judged_number a env rfl).cons fun chunk hchunk => ?_
  refine (judged_flag a env rfl).cons fun readOnly hreadOnly => ?_
  refine (judged_flag a env rfl).cons fun reject hreject => ?_
  refine (judged_text a env .debugLevel rfl nofun).cons fun level hlevel => ?_
  refine (judged_flag a env rfl).cons fun stderr hstderr => ?_
  refine .sound (List.forall_mem_nil _) ?_
  exact {
    host := hhost.settled _ _
    port := hport.settled _ _
    backend := hbackend.settled _ _
    storageDir := hstorage.settled _ _
    databaseUrl := hdatabase.settled _ _
    stagingDir := hstaging.over _
    owner := howner
    policy := hpolicy.settled _ _
    requestTimeout := htimeout.settled _ _
    chunkSize := ⟨_, hchunk.settled _ _, rfl⟩
    readOnly := hreadOnly
    rejectDuplicates := hreject
    debugLevel := hlevel.settled _ _
    debugStderr := hstderr }

theorem forall_inOrder_iff : (∀ s ∈ Setting.inOrder, Sound a env s) ↔ ∀ s, Sound a env s :=
  ⟨fun h s => h s s.mem_inOrder, fun h s _ => h s⟩

theorem merge_eq_ok_iff {c : Configuration} :
    merge a env = .ok c ↔ (∀ s, Sound a env s) ∧ Merged a env c := by
  rw [(judged_merge a env).ok_iff fun _ _ => Merged.unique, forall_inOrder_iff]

theorem merge_eq_error_iff : merge a env = .error e ↔ FirstFault a env Setting.inOrder e :=
  (judged_merge a env).error_iff

theorem exists_merge_iff : (∃ c, merge a env = .ok c) ↔ ∀ s, Sound a env s := by
  rw [(judged_merge a env).exists_ok_iff, forall_inOrder_iff]

/-- The configuration comes about exactly when every setting is sound, and then each value is the
argument, else what the variable says, else the default. Otherwise the error is that of the first
setting, in their order, that is at fault. -/
theorem merge_exact (a : Arguments) (env : Environment) :
    ((∃ c, merge a env = .ok c) ↔ ∀ s, Sound a env s) ∧
      (∀ c, merge a env = .ok c ↔ (∀ s, Sound a env s) ∧ Merged a env c) ∧
      (∀ c, merge a env = .ok c → 1 ≤ c.chunkSize) ∧
      ∀ e, merge a env = .error e ↔ FirstFault a env Setting.inOrder e := by
  refine ⟨exists_merge_iff, fun c => merge_eq_ok_iff, ?_, fun e => merge_eq_error_iff⟩
  intro c hc
  obtain ⟨size, _, hsize⟩ := (merge_eq_ok_iff.mp hc).2.chunkSize
  rw [hsize]
  exact Nat.le_max_right size 1

/-- A host and a flag are given, port and store come from variables, and the variable of the flag
is not looked at. -/
theorem merge_exact_mixed :
    let a : Arguments := { host := some "localhost", readOnly := true }
    let env : Environment := fun name =>
      if name = "BUCKET_FS_PORT" then .text "+080"
      else if name = "BUCKET_FS_BACKEND" then .text "Memory"
      else if name = "BUCKET_FS_CHUNK_SIZE" then .text "0"
      else if name = "BUCKET_FS_READ_ONLY" then .text "maybe"
      else .absent
    ∃ c, merge a env = .ok c ∧ Merged a env c ∧ 1 ≤ c.chunkSize ∧
      c.host = "localhost" ∧ c.port = 80 ∧ c.backend = .memory ∧ c.readOnly = true := by
  intro a env
  have hmerge : merge a env = .ok
      { host := "localhost", port := 80, backend := .memory, storageDir := "./data/objects"
        databaseUrl := "sqlite://./data/meta/bucket_fs.db", stagingDir := none, owner := Id.nil
        policy := defaultPolicy, requestTimeout := 15, chunkSize := 1, readOnly := true
        rejectDuplicates := false, debugLevel := "error", debugStderr := false } := by
    decide
  obtain ⟨_, hok, hpositive, _⟩ := merge_exact a env
  exact ⟨_, hmerge, ((hok _).mp hmerge).2, hpositive _ hmerge, rfl, rfl, rfl, rfl⟩

end Configuration
end ObjectGateway.Config
