import ObjectGateway.Proofs.Lists
import ObjectGateway.Text.LetterCase
/-!
# Texts in any case

Two texts have the same lower case when they are of one length and each character of the one
is that of the other, or the same letter in the other case.
-/
namespace ObjectGateway.LetterCase

variable {c d : Char} {a b word text : String}

/-- `c` is the capital of the small letter `d`. -/
def Capital (c d : Char) : Prop :=
  ('A' ≤ c ∧ c ≤ 'Z') ∧ d.toNat = c.toNat + 32

/-- The same character, or the same letter in the other case. -/
def SameLetter (c d : Char) : Prop :=
  c = d ∨ Capital c d ∨ Capital d c

/-- The text is the word in any case. -/
def AnyCase (word text : String) : Prop :=
  List.Forall₂ SameLetter word.toList text.toList

theorem isCapital_iff : 'A' ≤ c ∧ c ≤ 'Z' ↔ 65 ≤ c.toNat ∧ c.toNat ≤ 90 := Iff.rfl

theorem toNat_lowerChar (c : Char) :
    (lowerChar c).toNat = if 65 ≤ c.toNat ∧ c.toNat ≤ 90 then c.toNat + 32 else c.toNat := by
  unfold lowerChar
  simp only [isCapital_iff]
  split
  · have hvalid : (c.toNat + 32).isValidChar := .inl (by omega)
    rw [Char.ofNat, dif_pos hvalid]
    rfl
  · rfl

theorem lowerChar_eq_iff : lowerChar c = lowerChar d ↔ SameLetter c d := by
  rw [← Char.toNat_inj, toNat_lowerChar, toNat_lowerChar]
  unfold SameLetter Capital
  rw [isCapital_iff, isCapital_iff, ← Char.toNat_inj]
  split <;> split <;> omega

theorem lower_eq_iff : lower a = lower b ↔ AnyCase a b := by
  unfold lower AnyCase
  rw [String.ofList_inj, ← List.forall₂_eq_eq_eq, List.forall₂_map_left_iff,
    List.forall₂_map_right_iff]
  simp only [lowerChar_eq_iff]

theorem same_eq (a b : String) : same a b = (lower a == lower b) := by
  rw [Bool.eq_iff_iff, same, beq_iff_eq, beq_iff_eq, lower, lower, String.ofList_inj]

theorem same_iff : same a b = true ↔ AnyCase a b := by
  rw [same_eq, beq_iff_eq, lower_eq_iff]

/-- Among names that differ in more than their case, a text is that of at most one. -/
theorem find?_same_eq_some_iff {α : Type} {name : α → String} {kinds : List α} {kind : α}
    (hnames : (kinds.map fun k => lower (name k)).Nodup) :
    (kinds.find? fun k => same (name k) text) = some kind ↔
      kind ∈ kinds ∧ AnyCase (name kind) text := by
  simp only [same_eq]
  constructor
  · intro h
    have hlower : (lower (name kind) == lower text) = true :=
      List.find?_some (p := fun k => lower (name k) == lower text) h
    exact ⟨List.mem_of_find?_eq_some h, lower_eq_iff.mp (beq_iff_eq.mp hlower)⟩
  · rintro ⟨hmem, hcase⟩
    rw [← lower_eq_iff.mpr hcase]
    exact find?_of_nodup_map hnames hmem

theorem find?_same_eq_none_iff {α : Type} {name : α → String} {kinds : List α} :
    (kinds.find? fun k => same (name k) text) = none ↔ ∀ k ∈ kinds, ¬AnyCase (name k) text := by
  simp only [List.find?_eq_none, same_iff]

end ObjectGateway.LetterCase
