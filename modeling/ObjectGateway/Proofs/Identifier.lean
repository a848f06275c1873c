import ObjectGateway.Identifier
import ObjectGateway.Proofs.Text.Hexadecimal
/-!
# Identifiers, read back and fresh

The text of an identifier is 36 characters long, holds no slash, and reads back as
that identifier; so different identifiers have different texts. A supply whose keys
differ never hands out one that is in use.
-/
namespace ObjectGateway

namespace Segments

/-- A piece without the separator, then the separator, then more text. -/
theorem split_append (sep : Char) (xs ys : List Char) (h : sep ∉ xs) :
    split sep (xs ++ sep :: ys) = xs :: split sep ys := by
  induction xs with
  | nil => simp [split]
  | cons x xs ih =>
    have hx : x ≠ sep := fun e => h (e ▸ List.mem_cons_self)
    have hxs : sep ∉ xs := fun e => h (List.mem_cons_of_mem _ e)
    simp only [List.cons_append, split, if_neg hx, ih hxs]

theorem split_of_notMem (sep : Char) (xs : List Char) (h : sep ∉ xs) : split sep xs = [xs] := by
  induction xs with
  | nil => rfl
  | cons x xs ih =>
    have hx : x ≠ sep := fun e => h (e ▸ List.mem_cons_self)
    have hxs : sep ∉ xs := fun e => h (List.mem_cons_of_mem _ e)
    simp only [split, if_neg hx, ih hxs]

end Segments

namespace Id

variable {kind : IdKind}

/-- The five groups of a text of 32 digits are found again. -/
theorem ungroup?_group {digits : List Char} (hlen : digits.length = 32) (hdash : '-' ∉ digits) :
    ungroup? (group digits) = some digits := by
  have hpart : ∀ i n, '-' ∉ (digits.drop i).take n := fun i n h =>
    hdash (List.mem_of_mem_drop (List.mem_of_mem_take h))
  have hlast : '-' ∉ digits.drop 20 := fun h => hdash (List.mem_of_mem_drop h)
  have hsplit : Segments.split '-' (group digits) =
      [digits.take 8, (digits.drop 8).take 4, (digits.drop 12).take 4,
        (digits.drop 16).take 4, digits.drop 20] := by
    have h0 : '-' ∉ digits.take 8 := by simpa using hpart 0 8
    simp only [group, List.append_assoc, List.cons_append, Segments.split_append _ _ _ h0,
      Segments.split_append _ _ _ (hpart _ _), Segments.split_of_notMem _ _ hlast]
  have hjoin : digits.take 8 ++ (digits.drop 8).take 4 ++ (digits.drop 12).take 4 ++
      (digits.drop 16).take 4 ++ digits.drop 20 = digits := by
    have h1 := List.take_append_drop 4 (digits.drop 16)
    have h2 := List.take_append_drop 4 (digits.drop 12)
    have h3 := List.take_append_drop 4 (digits.drop 8)
    simp only [List.drop_drop] at h1 h2 h3
    rw [List.append_assoc, h1, List.append_assoc, h2, List.append_assoc, h3,
      List.take_append_drop]
  simp only [ungroup?, hsplit]
  rw [if_pos (by simp [hlen]), hjoin]

theorem length_group {digits : List Char} (hlen : digits.length = 32) :
    (group digits).length = 36 := by
  simp [group, hlen]

theorem length_chars (id : Id kind) : id.chars.length = 36 :=
  length_group (Hex.length_ofNat _ _)

@[simp] theorem length_text (id : Id kind) : id.text.length = 36 := by
  simp [text, length_chars]

/-- The digits that are written are neither hyphens nor slashes. -/
theorem digitChar_ne : ∀ d < 16, Nat.digitChar d ≠ '-' ∧ Nat.digitChar d ≠ '/' := by
  decide

theorem slash_notMem_chars (id : Id kind) : '/' ∉ id.chars := by
  have hdigits : '/' ∉ Hex.ofNat 32 id.bits.toNat := by
    intro h
    obtain ⟨d, hd, hc⟩ := Hex.mem_ofNat h
    exact (digitChar_ne d hd).2 hc.symm
  have hdrop : ∀ n, '/' ∉ (Hex.ofNat 32 id.bits.toNat).drop n := fun n h =>
    hdigits (List.mem_of_mem_drop h)
  have htake : ∀ i n, '/' ∉ ((Hex.ofNat 32 id.bits.toNat).drop i).take n := fun i n h =>
    hdrop i (List.mem_of_mem_take h)
  have h0 : '/' ∉ (Hex.ofNat 32 id.bits.toNat).take 8 := fun h =>
    hdigits (List.mem_of_mem_take h)
  simp [chars, group, h0, htake, hdrop]

/-- The text of an identifier is read as that identifier. -/
theorem parse?_text (id : Id kind) : parse? id.text = some id := by
  have hlen := Hex.length_ofNat 32 id.bits.toNat
  have hdash : '-' ∉ Hex.ofNat 32 id.bits.toNat := by
    intro h
    obtain ⟨d, hd, hc⟩ := Hex.mem_ofNat h
    exact (digitChar_ne d hd).1 hc.symm
  have hdigits : digits? id.chars = some (Hex.ofNat 32 id.bits.toNat) := by
    have h36 := length_chars id
    simp only [digits?, h36, if_neg (show ¬36 = 32 by decide), if_true]
    exact ungroup?_group hlen hdash
  have hvalue : Hex.toNat? (Hex.ofNat 32 id.bits.toNat) = some id.bits.toNat :=
    Hex.toNat?_ofNat (by have := id.bits.isLt; omega)
  simp [parse?, text, hdigits, hvalue]

theorem text_injective : Function.Injective (text : Id kind → String) := by
  intro a b h
  have hparse : parse? a.text = (parse? b.text : Option (Id kind)) := by rw [h]
  simpa [parse?_text] using hparse

/-- A text that is longer than that of an identifier is not the text of one. -/
theorem marked_ne_text {mark : String} (hmark : mark ≠ "") (id id' : Id kind) :
    mark ++ id.text ≠ id'.text := by
  intro h
  have hlength := congrArg String.length h
  exact hmark (by simpa using hlength)

end Id

namespace IdSupply

variable {s s' s'' : IdSupply} {kind : IdKind} {id : Id kind}

/-- The keys handed out so far differ from one another. -/
def Distinct (s : IdSupply) : Prop :=
  ∀ i j, i < s.drawn → j < s.drawn → s.nth i = s.nth j → i = j

/-- An identifier whose key has been handed out. -/
def Issued (s : IdSupply) (id : Id kind) : Prop :=
  ∃ i, i < s.drawn ∧ s.nth i = id.bits

/-- `s` after more keys have been drawn, if any. -/
def Extends (s' s : IdSupply) : Prop :=
  s'.nth = s.nth ∧ s.drawn ≤ s'.drawn

theorem Extends.refl (s : IdSupply) : s.Extends s := ⟨rfl, Nat.le_refl _⟩

theorem Extends.trans (h' : s''.Extends s') (h : s'.Extends s) : s''.Extends s :=
  ⟨h'.1.trans h.1, Nat.le_trans h.2 h'.2⟩

theorem extends_draw (s : IdSupply) (kind : IdKind) : (s.draw kind).2.Extends s :=
  ⟨rfl, Nat.le_succ _⟩

theorem Distinct.of_extends (hd : s'.Distinct) (h : s'.Extends s) : s.Distinct := by
  intro i j hi hj heq
  refine hd i j (Nat.lt_of_lt_of_le hi h.2) (Nat.lt_of_lt_of_le hj h.2) ?_
  rw [h.1, heq]

theorem Issued.of_extends (hid : s.Issued id) (h : s'.Extends s) : s'.Issued id := by
  obtain ⟨i, hi, heq⟩ := hid
  exact ⟨i, Nat.lt_of_lt_of_le hi h.2, by rw [h.1, heq]⟩

theorem issued_draw (s : IdSupply) (kind : IdKind) : (s.draw kind).2.Issued (s.draw kind).1 :=
  ⟨s.drawn, Nat.lt_succ_self _, rfl⟩

/-- A key that is drawn has not been handed out before. -/
theorem not_issued_draw (h : (s.draw kind).2.Distinct) : ¬s.Issued (s.draw kind).1 := by
  rintro ⟨i, hi, heq⟩
  -- The key that is drawn is the one at the place `drawn`, which no issued one has.
  have hlast := h i s.drawn (Nat.lt_succ_of_lt hi) (Nat.lt_succ_self _) heq
  omega

theorem Issued.ne_draw (hid : s.Issued id) (h : (s.draw kind).2.Distinct) :
    id ≠ (s.draw kind).1 := by
  rintro rfl
  exact not_issued_draw h hid

/-- A supply that counts its keys does not repeat itself before it is exhausted. -/
theorem distinct_counting {n : Nat} (h : n ≤ 2 ^ 128) : Distinct ⟨BitVec.ofNat 128, n⟩ := by
  intro i j hi hj heq
  -- Keys below the bound are not wrapped around.
  have hvalue := congrArg BitVec.toNat heq
  simp only [BitVec.toNat_ofNat] at hi hj hvalue
  omega

/-- So does one that has been drawn from since. -/
theorem distinct_of_counting (h : s'.Extends s) (hs : s.nth = BitVec.ofNat 128)
    (hdrawn : s'.drawn ≤ 2 ^ 128) : s'.Distinct := by
  obtain ⟨nth, drawn⟩ := s'
  obtain rfl : nth = BitVec.ofNat 128 := h.1.trans hs
  exact distinct_counting hdrawn

end IdSupply
end ObjectGateway
