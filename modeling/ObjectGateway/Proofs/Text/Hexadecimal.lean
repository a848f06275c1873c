import ObjectGateway.Text.Hex
import Mathlib.Algebra.Group.Nat.Defs
import Mathlib.Tactic.Common
/-!
# Hexadecimal text reads back

The digits of a number are as many as asked for, are digits, and read back as the
number they were written from.
-/
namespace ObjectGateway.Hex

/-- The sixteen digits in lower case, by their values. -/
theorem digit?_digitChar : ∀ d < 16, digit? (Nat.digitChar d) = some d := by
  decide

@[simp] theorem length_ofNat (width n : Nat) : (ofNat width n).length = width := by
  induction width generalizing n with
  | zero => rfl
  | succ width ih => simp [ofNat, ih]

theorem readFrom_append (acc : Nat) (xs ys : List Char) :
    readFrom acc (xs ++ ys) = (readFrom acc xs).bind fun n => readFrom n ys := by
  induction xs generalizing acc with
  | nil => rfl
  | cons x xs ih =>
    simp only [List.cons_append, readFrom]
    cases digit? x with
    | none => rfl
    | some d => exact ih _

/-- Reading digits on top of a value moves the value up by their number. -/
theorem readFrom_ofNat (acc width n : Nat) (h : n < 16 ^ width) :
    readFrom acc (ofNat width n) = some (16 ^ width * acc + n) := by
  -- The last digit is read last, on top of the value of those before it.
  induction width generalizing n with
  | zero =>
    have hn : n = 0 := by simpa using h
    simp [ofNat, readFrom, hn]
  | succ width ih =>
    have hdiv : n / 16 < 16 ^ width := by
      rw [Nat.pow_succ] at h
      omega
    have hdigit := digit?_digitChar (n % 16) (Nat.mod_lt _ (by decide))
    simp only [ofNat, readFrom_append, ih _ hdiv, Option.bind_some, readFrom, hdigit]
    have hpow : 16 ^ (width + 1) * acc = 16 * (16 ^ width * acc) := by
      rw [Nat.pow_succ, Nat.mul_comm _ 16, Nat.mul_assoc]
    have hmod := Nat.div_add_mod n 16
    congr 1
    omega

theorem toNat?_ofNat {width n : Nat} (h : n < 16 ^ width) :
    toNat? (ofNat width n) = some n := by
  simpa [toNat?] using readFrom_ofNat 0 width n h

/-- Every character written is the digit of some value below sixteen. -/
theorem mem_ofNat {width n : Nat} {c : Char} (h : c ∈ ofNat width n) :
    ∃ d < 16, c = Nat.digitChar d := by
  induction width generalizing n with
  | zero => cases h
  | succ width ih =>
    rcases List.mem_append.1 h with h | h
    · exact ih h
    · exact ⟨n % 16, Nat.mod_lt _ (by decide), by simpa using h⟩

end ObjectGateway.Hex
