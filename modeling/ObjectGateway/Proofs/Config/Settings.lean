import ObjectGateway.Config.Environment
import ObjectGateway.Proofs.Text.LetterCase
import ObjectGateway.Proofs.Text.Numerals
/-!
# What variables say of settings

A setting takes any text, a number up to a bound, the name of a store or a word for yes or no.
What a setting's variable is read as has one law for each of these kinds.
-/
namespace ObjectGateway.Config

open LetterCase (AnyCase)

variable {s : Setting} {text : String} {e : ConfigError} {env : Environment}

-- ---------------------------------------------------------------------------
-- Texts of settings
-- ---------------------------------------------------------------------------

namespace Setting

/-- The largest number that a setting may have, if it is a number. -/
def max? : Setting → Option Nat
  | port => some Decimal.maxUInt16
  | requestTimeout | chunkSize => some Decimal.maxUInt64
  | _ => none

def isFlag (s : Setting) : Bool := !(Switch.setting s).takesValue

def isText : Setting → Bool
  | host | storageDir | databaseUrl | stagingDir | owner | policy | debugLevel => true
  | _ => false

theorem max?_of_isFlag (hs : s.isFlag = true) : s.max? = none := by
  cases s <;> first | rfl | cases hs

theorem kind_of_isText (hs : s.isText = true) :
    s.max? = none ∧ s ≠ backend ∧ s.isFlag = false := by
  cases s <;> first | decide | cases hs

end Setting

/-- What a word says of a setting that is only on or off. -/
inductive FlagWord (text : String) : Bool → Prop
  | yes {word : String} (h : word ∈ Environment.trueWords) (hcase : AnyCase word text) :
      FlagWord text true
  | no {word : String} (h : word ∈ Environment.falseWords) (hcase : AnyCase word text) :
      FlagWord text false

def Counts (max : Nat) (text : String) (n : Nat) : Prop := Decimal.Numeral text n ∧ n ≤ max

def Names (text : String) (k : BackendKind) : Prop := AnyCase k.name text

def Verbatim (text value : String) : Prop := value = text

structure Setting.Fits (s : Setting) (text : String) : Prop where
  number : ∀ max, s.max? = some max → ∃ n, Counts max text n
  backend : s = backend → ∃ k, Names text k
  flag : s.isFlag = true → ∃ b, FlagWord text b

/-- The error that a text is refused with that is not well-formed for the setting. -/
inductive Setting.Refuses (text : String) : Setting → ConfigError → Prop
  | number {s : Setting} {max : Nat} {cause : Decimal.Malformed} (hs : s.max? = some max)
      (h : Decimal.natUpTo max text = .error cause) :
      Refuses text s (.malformed s text cause.message)
  | backend (h : ∀ k, ¬Names text k) :
      Refuses text backend (.malformed backend text ("invalid variant: " ++ text))
  | flag {s : Setting} (hs : s.isFlag = true) (h : ∀ b, ¬FlagWord text b) :
      Refuses text s (.notAFlag s (LetterCase.lower text))

theorem Setting.fits_of_isText (hs : s.isText = true) (text : String) : s.Fits text := by
  obtain ⟨hnumber, hbackend, hflag⟩ := kind_of_isText hs
  exact ⟨by simp [hnumber], fun h => absurd h hbackend, by simp [hflag]⟩

theorem Setting.Refuses.not_fits (h : s.Refuses text e) : ¬s.Fits text := by
  intro hfits
  cases h with
  | number hs h =>
    obtain ⟨n, hn⟩ := hfits.number _ hs
    rw [Decimal.natUpTo_eq_ok_iff.mpr hn] at h
    cases h
  | backend h =>
    obtain ⟨k, hk⟩ := hfits.backend rfl
    exact h k hk
  | flag hs h =>
    obtain ⟨b, hb⟩ := hfits.flag hs
    exact h b hb

/-- A setting has one kind of text only, and so one error for a text. -/
theorem Setting.Refuses.unique {e' : ConfigError} (h : s.Refuses text e) (h' : s.Refuses text e') :
    e = e' := by
  cases h with
  | number hs h =>
    cases h' with
    | number hs' h' =>
      obtain rfl := Option.some.inj (hs.symm.trans hs')
      obtain rfl := Except.error.inj (h.symm.trans h')
      rfl
    | backend => cases hs
    | flag hs' =>
      rw [max?_of_isFlag hs'] at hs
      cases hs
  | backend =>
    cases h' with
    | number hs' => cases hs'
    | backend => rfl
    | flag hs' => cases hs'
  | flag hs =>
    cases h' with
    | number hs' =>
      rw [max?_of_isFlag hs] at hs'
      cases hs'
    | backend => cases hs
    | flag => rfl

-- ---------------------------------------------------------------------------
-- Words
-- ---------------------------------------------------------------------------

theorem BackendKind.ofAnyCase?_eq_some_iff {k : BackendKind} :
    BackendKind.ofAnyCase? text = some k ↔ Names text k := by
  rw [BackendKind.ofAnyCase?, LetterCase.find?_same_eq_some_iff (by decide)]
  cases k <;> simp [Names]

theorem BackendKind.ofAnyCase?_eq_none_iff :
    BackendKind.ofAnyCase? text = none ↔ ∀ k, ¬Names text k := by
  simp only [Option.eq_none_iff_forall_ne_some, ne_eq, ofAnyCase?_eq_some_iff]

theorem Names.unique (text : String) (k k' : BackendKind) (h : Names text k)
    (h' : Names text k') : k = k' := by
  rw [← BackendKind.ofAnyCase?_eq_some_iff] at h h'
  exact Option.some.inj (h.symm.trans h')

theorem flagWord_iff {b : Bool} : FlagWord text b ↔
    LetterCase.lower text ∈ if b then Environment.trueWords else Environment.falseWords := by
  have hlower : ∀ word ∈ Environment.trueWords ++ Environment.falseWords,
      LetterCase.lower word = word := by decide
  constructor
  · rintro (⟨h, hcase⟩ | ⟨h, hcase⟩)
    · rwa [← LetterCase.lower_eq_iff.mpr hcase, hlower _ (List.mem_append_left _ h)]
    · rwa [← LetterCase.lower_eq_iff.mpr hcase, hlower _ (List.mem_append_right _ h)]
  · intro h
    cases b with
    | true => exact .yes h (LetterCase.lower_eq_iff.mp (hlower _ (List.mem_append_left _ h)))
    | false => exact .no h (LetterCase.lower_eq_iff.mp (hlower _ (List.mem_append_right _ h)))

/-- No word says both yes and no. -/
theorem FlagWord.not_both (h : FlagWord text true) : ¬FlagWord text false := by
  have hdisjoint : ∀ word ∈ Environment.trueWords, word ∉ Environment.falseWords := by decide
  intro h'
  exact hdisjoint _ (flagWord_iff.mp h) (flagWord_iff.mp h')

theorem Verbatim.unique (text v v' : String) (h : Verbatim text v) (h' : Verbatim text v') :
    v = v' :=
  h.trans h'.symm

theorem Counts.unique {max : Nat} (text : String) (n n' : Nat) (h : Counts max text n)
    (h' : Counts max text n') : n = n' :=
  Except.ok.inj ((Decimal.natUpTo_eq_ok_iff.mpr h).symm.trans (Decimal.natUpTo_eq_ok_iff.mpr h'))

-- ---------------------------------------------------------------------------
-- Variables of settings
-- ---------------------------------------------------------------------------

namespace Environment

/-- The setting's variable is absent, or it is a text that is well-formed for the setting. -/
inductive Usable (env : Environment) (s : Setting) : Prop
  | absent (hvar : env s.variable = .absent)
  | text {text : String} (hvar : env s.variable = .text text) (h : s.Fits text)

/-- What a setting's variable is read as: a value that `P` holds of when the variable is
usable, otherwise the error that tells why it is not. -/
inductive Reads {α : Type} (env : Environment) (s : Setting) (P : α → Prop) :
    Except ConfigError α → Prop
  | usable {v : α} (husable : env.Usable s) (h : P v) : Reads env s P (.ok v)
  | unreadable (hvar : env s.variable = .unreadable) : Reads env s P (.error (.unreadable s))
  | refused {text : String} {e : ConfigError} (hvar : env s.variable = .text text)
      (h : s.Refuses text e) : Reads env s P (.error e)

theorem Usable.not_unreadable (h : env.Usable s) : env s.variable ≠ .unreadable := by
  rcases h with hvar | hvar <;> simp [hvar]

theorem Usable.fits (h : env.Usable s) (hvar : env s.variable = .text text) : s.Fits text := by
  rcases h with hvar' | ⟨hvar', hfits⟩
  · rw [hvar'] at hvar
    cases hvar
  · rw [hvar'] at hvar
    cases hvar
    exact hfits

end Environment

/-- The value of a setting, if it has one: it is the argument if that is given, and otherwise
what the text of the variable means. -/
inductive Chosen {α : Type} (env : Environment) (s : Setting) (means : String → α → Prop) :
    Option α → Option α → Prop
  | argument {v : α} : Chosen env s means (some v) (some v)
  | text {text : String} {v : α} (hvar : env s.variable = .text text) (h : means text v) :
      Chosen env s means none (some v)
  | neither (hvar : env s.variable = .absent) : Chosen env s means none none

/-- A flag is on when it is given or its variable says yes. -/
def On (env : Environment) (s : Setting) (given b : Bool) : Prop :=
  b = true ↔ given = true ∨ ∃ text, env s.variable = .text text ∧ FlagWord text true

section Chosen

variable {α : Type} {means : String → α → Prop} {given v v' : Option α}

/-- An argument goes before the variable. -/
theorem Chosen.over (h : Chosen env s means none v) (given : Option α) :
    Chosen env s means given (given.or v) := by
  cases given with
  | none => exact h
  | some _ => exact .argument

theorem Chosen.unique (hmeans : ∀ text v v', means text v → means text v' → v = v')
    (h : Chosen env s means given v) (h' : Chosen env s means given v') : v = v' := by
  cases h with
  | argument =>
    cases h'
    rfl
  | text hvar h =>
    cases h' with
    | text hvar' h' =>
      rw [hvar] at hvar'
      cases hvar'
      exact congrArg some (hmeans _ _ _ h h')
    | neither hvar' =>
      rw [hvar] at hvar'
      cases hvar'
  | neither hvar =>
    cases h' with
    | text hvar' =>
      rw [hvar] at hvar'
      cases hvar'
    | neither => rfl

end Chosen

-- ---------------------------------------------------------------------------
-- Reading variables
-- ---------------------------------------------------------------------------

namespace Environment

theorem reads_value {α : Type} {parse : String → Except String α} {means : String → α → Prop}
    (hok : ∀ text v, parse text = .ok v → s.Fits text ∧ means text v)
    (herror : ∀ text reason, parse text = .error reason →
      s.Refuses text (.malformed s text reason)) (env : Environment) :
    env.Reads s (Chosen env s means none) (env.value? s parse) := by
  unfold value? text?
  cases hvar : env s.variable with
  | absent => exact .usable (.absent hvar) (.neither hvar)
  | unreadable => exact .unreadable hvar
  | text text =>
    simp only [bind, Except.bind]
    cases hparse : parse text with
    | ok v =>
      obtain ⟨hfits, hmeans⟩ := hok text v hparse
      exact .usable (.text hvar hfits) (.text hvar hmeans)
    | error reason => exact .refused hvar (herror text reason hparse)

theorem reads_text (hs : s.isText = true) (env : Environment) :
    env.Reads s (Chosen env s Verbatim none) (env.text? s) := by
  unfold text?
  cases hvar : env s.variable with
  | absent => exact .usable (.absent hvar) (.neither hvar)
  | unreadable => exact .unreadable hvar
  | text text => exact .usable (.text hvar (Setting.fits_of_isText hs text)) (.text hvar rfl)

theorem reads_number {max : Nat} (hs : s.max? = some max) (env : Environment) :
    env.Reads s (Chosen env s (Counts max) none) (env.number? s max) := by
  apply reads_value
  · intro text n h
    cases hread : Decimal.natUpTo max text with
    | ok n' =>
      rw [hread] at h
      cases h
      have hcounts : Counts max text n := Decimal.natUpTo_eq_ok_iff.mp hread
      refine ⟨⟨?_, ?_, ?_⟩, hcounts⟩
      · intro max' hs'
        obtain rfl := Option.some.inj (hs.symm.trans hs')
        exact ⟨n, hcounts⟩
      · rintro rfl
        cases hs
      · intro hflag
        rw [Setting.max?_of_isFlag hflag] at hs
        cases hs
    | error cause =>
      rw [hread] at h
      cases h
  · intro text reason h
    cases hread : Decimal.natUpTo max text with
    | ok n' =>
      rw [hread] at h
      cases h
    | error cause =>
      rw [hread] at h
      cases h
      exact .number hs hread

theorem reads_backend (env : Environment) :
    env.Reads .backend (Chosen env .backend Names none) (env.backend? .backend) := by
  apply reads_value
  · intro text k h
    split at h
    · rename_i hk
      cases h
      have hnames := BackendKind.ofAnyCase?_eq_some_iff.mp hk
      exact ⟨⟨nofun, fun _ => ⟨k, hnames⟩, nofun⟩, hnames⟩
    · cases h
  · intro text reason h
    split at h
    · cases h
    · rename_i hnone
      cases h
      exact .backend (BackendKind.ofAnyCase?_eq_none_iff.mp hnone)

theorem reads_flag (hs : s.isFlag = true) (env : Environment) :
    env.Reads s (On env s false) (env.flag s) := by
  have hfits : ∀ {text b}, FlagWord text b → s.Fits text := by
    intro text b h
    refine ⟨?_, ?_, fun _ => ⟨b, h⟩⟩
    · intro max hnumber
      rw [Setting.max?_of_isFlag hs] at hnumber
      cases hnumber
    · rintro rfl
      cases hs
  unfold flag text?
  cases hvar : env s.variable with
  | absent => exact .usable (.absent hvar) (by simp [On, hvar])
  | unreadable => exact .unreadable hvar
  | text text =>
    simp only [bind, Except.bind, Option.map_some, List.contains_iff_mem]
    split
    · rename_i hno
      have hword : FlagWord text false := flagWord_iff.mpr hno
      have hoff : ¬FlagWord text true := fun hyes => hyes.not_both hword
      exact .usable (.text hvar (hfits hword)) (by simp [On, hvar, hoff])
    split
    · rename_i hyes
      have hword : FlagWord text true := flagWord_iff.mpr hyes
      exact .usable (.text hvar (hfits hword)) (by simp [On, hvar, hword])
    · rename_i hno hyes
      refine .refused hvar (.flag hs fun b hb => ?_)
      rw [flagWord_iff] at hb
      cases b with
      | true => exact hyes hb
      | false => exact hno hb

end Environment

end ObjectGateway.Config
