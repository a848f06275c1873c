import Mathlib.Tactic.Common
import ObjectGateway.Text.Decimal
/-!
# Decimal numbers within a bound

A text is read as a number of at most some size just when it is digits, perhaps behind a plus
sign, and the value of the digits is not greater. Zeros in front do not matter.
-/
namespace ObjectGateway.Decimal

variable {max n acc : Nat} {past : Malformed} {c : Char} {cs : List Char} {text : String}

def valueFrom (acc : Nat) (digits : List Char) : Nat :=
  digits.foldl (fun n c => 10 * n + (c.toNat - '0'.toNat)) acc

/-- The text is a number: digits, one at least, perhaps behind a plus sign. -/
def Numeral (text : String) (n : Nat) : Prop :=
  ∃ digits, (text.toList = digits ∨ text.toList = '+' :: digits) ∧
    digits ≠ [] ∧ (∀ c ∈ digits, c.isDigit = true) ∧ valueFrom 0 digits = n

theorem digit?_eq (c : Char) :
    digit? c = if c.isDigit = true then some (c.toNat - '0'.toNat) else none := by
  have hdigit : '0' ≤ c ∧ c ≤ '9' ↔ c.isDigit = true := Char.isDigit_iff_toNat.symm
  simp only [digit?, hdigit]

theorem le_valueFrom (acc : Nat) (cs : List Char) : acc ≤ valueFrom acc cs := by
  induction cs generalizing acc with
  | nil => exact Nat.le_refl _
  | cons c cs ih =>
    refine Nat.le_trans ?_ (ih (10 * acc + (c.toNat - '0'.toNat)))
    omega

/-- Digits are read to their value, as long as that stays within the bound. -/
theorem readFrom_eq_ok_iff (hacc : acc ≤ max) : readFrom max past acc cs = .ok n ↔
    (∀ c ∈ cs, c.isDigit = true) ∧ valueFrom acc cs = n ∧ n ≤ max := by
  induction cs generalizing acc with
  | nil =>
    simp only [readFrom, valueFrom, List.foldl_nil, Except.ok.injEq]
    constructor
    · rintro rfl
      exact ⟨fun _ h => (nomatch h), rfl, hacc⟩
    · exact fun h => h.2.1
  | cons c cs ih =>
    by_cases hc : c.isDigit = true
    · have hvalue : valueFrom acc (c :: cs) =
          valueFrom (10 * acc + (c.toNat - '0'.toNat)) cs := rfl
      have hdigit : digit? c = some (c.toNat - '0'.toNat) := by rw [digit?_eq, if_pos hc]
      simp only [readFrom, hdigit, hvalue, List.forall_mem_cons, hc, true_and]
      by_cases hpast : 10 * acc + (c.toNat - '0'.toNat) > max
      · -- What is past the bound stays past it.
        have hle := le_valueFrom (10 * acc + (c.toNat - '0'.toNat)) cs
        rw [if_pos hpast]
        constructor
        · intro h
          cases h
        · rintro ⟨-, rfl, hmax⟩
          exact absurd (Nat.le_trans hle hmax) (Nat.not_le.mpr hpast)
      · rw [if_neg hpast]
        exact ih (Nat.le_of_not_lt hpast)
    · simp [readFrom, digit?_eq, hc]

/-- The texts that are read are the numbers within the bound. -/
theorem natUpTo_eq_ok_iff : natUpTo max text = .ok n ↔ Numeral text n ∧ n ≤ max := by
  have hread : ∀ digits : List Char, readFrom max .tooLarge 0 digits = .ok n ↔
      (∀ c ∈ digits, c.isDigit = true) ∧ valueFrom 0 digits = n ∧ n ≤ max :=
    fun _ => readFrom_eq_ok_iff (Nat.zero_le max)
  have hplus : '+'.isDigit = false := rfl
  have hminus : '-'.isDigit = false := rfl
  unfold natUpTo Numeral
  generalize text.toList = cs
  split
  · simp
  · simp [hplus]
  · simp [hminus]
  · rename_i rest hrest
    rw [hread]
    constructor
    · rintro ⟨hdigits, hvalue, hmax⟩
      refine ⟨⟨rest, .inr rfl, ?_, hdigits, hvalue⟩, hmax⟩
      rintro rfl
      exact hrest rfl
    · rintro ⟨⟨digits, hform, -, hdigits, hvalue⟩, hmax⟩
      obtain rfl | h := hform
      · simp [hplus] at hdigits
      · cases h
        exact ⟨hdigits, hvalue, hmax⟩
  · rename_i hempty _ hminus' hplus'
    rw [hread]
    constructor
    · rintro ⟨hdigits, hvalue, hmax⟩
      exact ⟨⟨cs, .inl rfl, hempty, hdigits, hvalue⟩, hmax⟩
    · rintro ⟨⟨digits, hform, -, hdigits, hvalue⟩, hmax⟩
      obtain rfl | h := hform
      · exact ⟨hdigits, hvalue, hmax⟩
      · exact absurd h (hplus' digits)

end ObjectGateway.Decimal
