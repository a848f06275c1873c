import ObjectGateway.Proofs.Config.Merging
/-!
# Arguments over variables

Two environments that differ in variables of given arguments only lead to the same result as
long as these variables can be used: what they say is of no account. A variable that cannot be
used is of account even then, except that of a flag: nothing is merged with it.
-/
namespace ObjectGateway.Config

variable {a : Arguments} {env env' : Environment} {s : Setting} {order : List Setting}
  {e : ConfigError}

/-- The environments agree on the variables of the settings that are not given. -/
def Agree (a : Arguments) (env env' : Environment) : Prop :=
  ∀ s, a.gives s = false → env s.variable = env' s.variable

/-- The environments agree on the setting's variable, or it can be used in both of them. -/
def BothUsable (env env' : Environment) (s : Setting) : Prop :=
  env s.variable = env' s.variable ∨ env.Usable s ∧ env'.Usable s

theorem Agree.symm (h : Agree a env env') : Agree a env' env :=
  fun s hs => (h s hs).symm

-- ---------------------------------------------------------------------------
-- Values
-- ---------------------------------------------------------------------------

/-- The variable is of no account where there is an argument. -/
theorem Chosen.congr {α : Type} {means : String → α → Prop} {given v : Option α}
    (h : Chosen env s means given v)
    (hsame : given.isSome = false → env s.variable = env' s.variable) :
    Chosen env' s means given v := by
  cases h with
  | argument => exact .argument
  | text hvar h => exact .text (hsame rfl ▸ hvar) h
  | neither hvar => exact .neither (hsame rfl ▸ hvar)

theorem Settled.congr {α : Type} {means : String → α → Prop} {given : Option α} {default v : α}
    (h : Settled env s means given default v)
    (hsame : given.isSome = false → env s.variable = env' s.variable) :
    Settled env' s means given default v := by
  obtain ⟨chosen, h, rfl⟩ := h
  exact ⟨chosen, h.congr hsame, rfl⟩

theorem On.congr {given b : Bool} (h : On env s given b)
    (hsame : given = false → env s.variable = env' s.variable) : On env' s given b := by
  cases given with
  | true => simpa [On] using h
  | false => simpa [On, hsame rfl] using h

theorem Agree.ownerText {raw : Option String} (hagree : Agree a env env')
    (h : OwnerText a env raw) : OwnerText a env' raw :=
  h.congr (hagree .owner)

theorem Agree.merged {c : Configuration} (hagree : Agree a env env') (h : Merged a env c) :
    Merged a env' c := by
  obtain ⟨raw, hraw, howner⟩ := h.owner
  obtain ⟨size, hsize, hchunk⟩ := h.chunkSize
  exact {
    host := h.host.congr (hagree .host)
    port := h.port.congr (hagree .port)
    backend := h.backend.congr (hagree .backend)
    storageDir := h.storageDir.congr (hagree .storageDir)
    databaseUrl := h.databaseUrl.congr (hagree .databaseUrl)
    stagingDir := h.stagingDir.congr (hagree .stagingDir)
    owner := ⟨raw, hagree.ownerText hraw, howner⟩
    policy := h.policy.congr (hagree .policy)
    requestTimeout := h.requestTimeout.congr (hagree .requestTimeout)
    chunkSize := ⟨size, hsize.congr (hagree .chunkSize), hchunk⟩
    readOnly := h.readOnly.congr (hagree .readOnly)
    rejectDuplicates := h.rejectDuplicates.congr (hagree .rejectDuplicates)
    debugLevel := h.debugLevel.congr (hagree .debugLevel)
    debugStderr := h.debugStderr.congr (hagree .debugStderr) }

-- ---------------------------------------------------------------------------
-- Faults
-- ---------------------------------------------------------------------------

theorem BothUsable.usable (hboth : BothUsable env env' s) (h : env.Usable s) : env'.Usable s := by
  rcases hboth with hsame | ⟨_, h'⟩
  · rcases h with hvar | ⟨hvar, hfits⟩
    · exact .absent (hsame ▸ hvar)
    · exact .text (hsame ▸ hvar) hfits
  · exact h'

theorem Sound.congr (h : Sound a env s) (hagree : Agree a env env')
    (hboth : a.Consults s → BothUsable env env' s) : Sound a env' s where
  usable hc := (hboth hc).usable (h.usable hc)
  owner hs raw hraw := h.owner hs raw (hagree.symm.ownerText hraw)

theorem Fault.congr (h : Fault a env s e) (hagree : Agree a env env')
    (hboth : a.Consults s → BothUsable env env' s) : Fault a env' s e := by
  cases h with
  | unreadable hc hvar =>
    rcases hboth hc with hsame | ⟨husable, _⟩
    · exact .unreadable hc (hsame ▸ hvar)
    · exact absurd hvar husable.not_unreadable
  | refused hc hvar h =>
    rcases hboth hc with hsame | ⟨husable, _⟩
    · exact .refused hc (hsame ▸ hvar) h
    · exact absurd (husable.fits hvar) h.not_fits
  | misnamed husable hraw h =>
    have hc : a.Consults .owner := a.consults_of_not_flag rfl
    exact .misnamed ((hboth hc).usable husable) (hagree.ownerText hraw) h

theorem FirstFault.congr (h : FirstFault a env order e) (hagree : Agree a env env')
    (hboth : ∀ s, a.Consults s → BothUsable env env' s) : FirstFault a env' order e := by
  induction h with
  | here h => exact .here (h.congr hagree (hboth _))
  | later hs _ ih => exact .later (hs.congr hagree (hboth _)) ih

-- ---------------------------------------------------------------------------
-- Merging
-- ---------------------------------------------------------------------------

namespace Configuration

theorem merge_congr (hagree : Agree a env env')
    (hboth : ∀ s, a.Consults s → BothUsable env env' s) : merge a env = merge a env' := by
  cases hmerge : merge a env with
  | ok c =>
    obtain ⟨hall, hc⟩ := merge_eq_ok_iff.mp hmerge
    have hall' : ∀ s, Sound a env' s := fun s => (hall s).congr hagree (hboth s)
    exact (merge_eq_ok_iff.mpr ⟨hall', hagree.merged hc⟩).symm
  | error e =>
    have hfault := merge_eq_error_iff.mp hmerge
    exact (merge_eq_error_iff.mpr (hfault.congr hagree hboth)).symm

/-- An argument goes before its variable, which is looked at nevertheless: one that is unreadable
or not well-formed is reported, unless it is that of a flag. -/
theorem arguments_override (a : Arguments) (env env' : Environment)
    (hagree : Agree a env env') :
    ((∀ s, a.gives s = true → s.isFlag = false → BothUsable env env' s) →
        merge a env = merge a env') ∧
      (∀ c c', merge a env = .ok c → merge a env' = .ok c' → c = c') ∧
      ∀ s, s.isFlag = false → ¬env.Usable s → ∃ e, merge a env = .error e := by
  refine ⟨fun hboth => merge_congr hagree fun s hc => ?_, fun c c' h h' => ?_, fun s hs hbad => ?_⟩
  · cases hgiven : a.gives s with
    | false => exact .inl (hagree s hgiven)
    | true =>
      refine hboth s hgiven (Bool.eq_false_iff.mpr fun hflag => ?_)
      rw [hc hflag] at hgiven
      cases hgiven
  · obtain ⟨-, hc⟩ := merge_eq_ok_iff.mp h
    obtain ⟨-, hc'⟩ := merge_eq_ok_iff.mp h'
    exact (hagree.merged hc).unique hc'
  · cases hmerge : merge a env with
    | ok c =>
      have hsound : Sound a env s := exists_merge_iff.mp ⟨c, hmerge⟩ s
      exact absurd (hsound.usable (a.consults_of_not_flag hs)) hbad
    | error e => exact ⟨e, rfl⟩

/-- A given port silences a variable that names another one, and a given flag one that is no
word. -/
theorem arguments_override_port :
    let a : Arguments := { port := some 80, readOnly := true }
    let env : Environment := fun name =>
      if name = "BUCKET_FS_PORT" then .text "9000"
      else if name = "BUCKET_FS_READ_ONLY" then .unreadable
      else .absent
    merge a env = merge a fun _ => .absent := by
  intro a env
  have hagree : Agree a env fun _ => .absent := by
    intro s hs
    cases s <;> first | decide | cases hs
  refine (arguments_override a env _ hagree).1 fun s hgiven hflag => .inr ⟨?_, .absent rfl⟩
  cases s with
  | port =>
    have hvar : env Setting.port.variable = .text "9000" := by decide
    have hnumber : Counts Decimal.maxUInt16 "9000" 9000 :=
      Decimal.natUpTo_eq_ok_iff.mp (by decide)
    refine .text hvar ⟨?_, nofun, nofun⟩
    rintro max ⟨⟩
    exact ⟨9000, hnumber⟩
  | readOnly => cases hflag
  | _ => cases hgiven

/-- The port is given, and its variable is reported as no number. -/
theorem given_port_reported :
    ∃ (a : Arguments) (env env' : Environment), a.gives .port = true ∧
      (∀ name, name ≠ Setting.port.variable → env name = env' name) ∧
      (∃ c, merge a env = .ok c ∧ c.port = 80) ∧
      merge a env' = .error (.malformed .port "http" "invalid digit found in string") := by
  let env' : Environment := fun name =>
    if name = "BUCKET_FS_PORT" then .text "http" else .absent
  refine ⟨{ port := some 80 }, fun _ => .absent, env', rfl, ?_, ?_, by decide⟩
  · intro name hname
    exact (if_neg hname).symm
  · exact ⟨_, rfl, rfl⟩

end Configuration
end ObjectGateway.Config
