import Mathlib.Data.List.Induction
import ObjectGateway.Gateway.Writer
import ObjectGateway.Proofs.Backend.Command
import ObjectGateway.Proofs.Bytes
/-!
# What is staged

The staged bytes are the overlay of the accepted writes: they reach as far as the
furthest write that carries data, and each byte is that of the last write which covers
its place, or zero. They are uploaded in pieces, unless a write without data has made
the staged length larger than there are bytes; then the upload breaks off.
-/
namespace ObjectGateway.Staging

/-! ## Writes -/

def stop (write : Nat × Bytes) : Nat := write.1 + write.2.length

/-- The end of the furthest write; zero when there is none. -/
def furthest : List (Nat × Bytes) → Nat
  | [] => 0
  | write :: writes => max (stop write) (furthest writes)

def carrying (writes : List (Nat × Bytes)) : List (Nat × Bytes) :=
  writes.filter fun write => !write.2.isEmpty

/-- Whether a write has a byte for the place `i`. -/
def covers (i : Nat) (write : Nat × Bytes) : Bool :=
  write.1 ≤ i && i < stop write

/-- The byte that these writes leave at the place `i`: that of the last one which covers
it, or zero. -/
def byteAt (writes : List (Nat × Bytes)) (i : Nat) : UInt8 :=
  match writes.reverse.find? (covers i) with
  | some (offset, data) => data.getD (i - offset) 0
  | none => 0

variable {s : Staging} {writes : List (Nat × Bytes)} {write : Nat × Bytes} {i : Nat}

theorem covers_iff : covers i write = true ↔ write.1 ≤ i ∧ i < stop write := by
  simp [covers]

theorem furthest_append (writes : List (Nat × Bytes)) (write : Nat × Bytes) :
    furthest (writes ++ [write]) = max (furthest writes) (stop write) := by
  induction writes with
  | nil => simp [furthest]
  | cons first rest ih => simp only [List.cons_append, furthest, ih, Nat.max_assoc]

theorem carrying_append (writes : List (Nat × Bytes)) (write : Nat × Bytes) :
    carrying (writes ++ [write]) = carrying writes ++ if write.2.isEmpty then [] else [write] := by
  cases h : write.2.isEmpty <;> simp [carrying, h]

theorem furthest_carrying_le (writes : List (Nat × Bytes)) :
    furthest (carrying writes) ≤ furthest writes := by
  induction writes with
  | nil => exact Nat.le_refl _
  | cons first rest ih =>
    cases h : first.2.isEmpty
    · simp only [carrying, h, Bool.not_false, List.filter_cons_of_pos, furthest]
      exact Nat.max_le.mpr ⟨Nat.le_max_left _ _, Nat.le_trans ih (Nat.le_max_right _ _)⟩
    · simp only [carrying, h, Bool.not_true, Bool.false_eq_true, not_false_eq_true,
        List.filter_cons_of_neg]
      exact Nat.le_trans ih (Nat.le_max_right _ _)

theorem byteAt_append (writes : List (Nat × Bytes)) (write : Nat × Bytes) (i : Nat) :
    byteAt (writes ++ [write]) i =
      if covers i write then write.2.getD (i - write.1) 0 else byteAt writes i := by
  cases h : covers i write <;> simp [byteAt, h]

/-! ## The staged bytes -/

theorem length_eq_furthest (s : Staging) : s.length = furthest s.writes := by
  -- The fold carries the maximum so far, so it may start with any number.
  have hfold : ∀ (writes : List (Nat × Bytes)) (n : Nat),
      (writes.map stop).foldl max n = max n (furthest writes) := by
    intro writes
    induction writes with
    | nil => simp [furthest]
    | cons first rest ih =>
      intro n
      rw [List.map_cons, List.foldl_cons, ih, furthest, Nat.max_assoc]
  exact (hfold s.writes 0).trans (Nat.zero_max _)

theorem overlay_of_isEmpty (content : Bytes) (h : write.2.isEmpty) :
    overlay content write = content := by
  simp [overlay, h]

theorem length_overlay (content : Bytes) (h : write.2.isEmpty = false) :
    (overlay content write).length = max content.length (stop write) := by
  simp only [overlay, h, Bool.false_eq_true, if_false, List.length_append, List.length_take,
    List.length_replicate, List.length_drop, stop]
  omega

/-- Zeros at the end are not seen. -/
theorem getD_append_zeros (content : Bytes) (n i : Nat) :
    (content ++ List.replicate n 0).getD i 0 = content.getD i 0 := by
  simp only [List.getD_eq_getElem?_getD, List.getElem?_append, List.getElem?_replicate]
  split
  · rfl
  · rename_i hlong
    rw [List.getElem?_eq_none (Nat.le_of_not_lt hlong)]
    split <;> rfl

/-- A write covers what was there, and zeros fill the gap in front of it. -/
theorem getD_overlay (content : Bytes) (write : Nat × Bytes) (i : Nat) :
    (overlay content write).getD i 0 =
      if covers i write then write.2.getD (i - write.1) 0 else content.getD i 0 := by
  obtain ⟨offset, data⟩ := write
  cases h : data.isEmpty with
  | true =>
    have hnever : ¬covers i (offset, data) = true := by
      rw [covers_iff, stop, List.isEmpty_iff.mp h]
      simp
    rw [overlay_of_isEmpty content h, if_neg hnever]
  | false =>
    have hlength : (content.take offset ++
        List.replicate (offset - (content.take offset).length) (0 : UInt8)).length = offset := by
      simp only [List.length_append, List.length_take, List.length_replicate]
      omega
    simp only [overlay, h, Bool.false_eq_true, if_false, covers_iff, stop,
      List.getD_eq_getElem?_getD]
    rw [List.append_assoc _ data]
    -- The place lies in front of the write, within it or behind it.
    obtain hbefore | hbehind := Nat.lt_or_ge i offset
    · rw [if_neg (by omega), List.getElem?_append_left (by omega), ← List.getD_eq_getElem?_getD,
        getD_append_zeros, List.getD_eq_getElem?_getD, List.getElem?_take, if_pos hbefore]
    · rw [List.getElem?_append_right (by omega), hlength]
      obtain hinside | hafter := Nat.lt_or_ge i (offset + data.length)
      · rw [List.getElem?_append_left (by omega), if_pos ⟨hbehind, hinside⟩]
      · rw [List.getElem?_append_right (by omega), if_neg (by omega), List.getElem?_drop]
        congr 2
        omega

theorem content_append (writes : List (Nat × Bytes)) (write : Nat × Bytes) :
    content ⟨writes ++ [write]⟩ = overlay (content ⟨writes⟩) write := by
  simp [content, List.foldl_append]

theorem length_content (s : Staging) : s.content.length = furthest (carrying s.writes) := by
  obtain ⟨writes⟩ := s
  -- The last write is laid over all others, so it is taken off first.
  induction writes using List.reverseRecOn with
  | nil => rfl
  | append_singleton rest write ih =>
    rw [content_append, carrying_append]
    cases h : write.2.isEmpty
    · rw [length_overlay _ h, ih]
      exact (furthest_append _ _).symm
    · rw [overlay_of_isEmpty _ h, ih]
      simp

/-- Each byte is that of the last write which covers its place. -/
theorem getD_content (s : Staging) (i : Nat) : s.content.getD i 0 = byteAt s.writes i := by
  obtain ⟨writes⟩ := s
  induction writes using List.reverseRecOn with
  | nil => rfl
  | append_singleton rest write ih => rw [content_append, getD_overlay, byteAt_append, ih]

theorem length_content_le (s : Staging) : s.content.length ≤ s.length := by
  rw [length_content, length_eq_furthest]
  exact furthest_carrying_le s.writes

/-- The content is the overlay of the writes: it ends where the furthest one that carries
data does, and each byte is that of the last one which covers its place, or zero. -/
structure IsOverlay (writes : List (Nat × Bytes)) (content : Bytes) : Prop where
  length : content.length = furthest (carrying writes)
  byte : ∀ i (h : i < content.length), content[i] = byteAt writes i

theorem content_isOverlay (s : Staging) : IsOverlay s.writes s.content where
  length := s.length_content
  byte i h := by
    rw [← s.getD_content i, List.getD_eq_getElem?_getD, List.getElem?_eq_getElem h]
    rfl

/-! ## The upload -/

variable {size bound remaining : Nat} {content : Bytes}

/-- A content of the wanted length is read back in pieces. -/
theorem readBack_content (size bound : Nat) (content : Bytes) :
    readBack size bound content.length content = (Bytes.cutFrom size bound content).map .ok := by
  induction bound generalizing content with
  | zero => rfl
  | succ bound ih =>
    cases content with
    | nil => rfl
    | cons x xs =>
      have htake : (x :: xs).take (min (x :: xs).length size) = (x :: xs).take size := by
        rw [Nat.min_comm, ← List.take_eq_take_min]
      have hdrop : (x :: xs).drop (min (x :: xs).length size) = (x :: xs).drop size := by
        simp [List.drop_eq_drop_iff, Nat.min_comm]
      have hrest : (x :: xs).length - min (x :: xs).length size = ((x :: xs).drop size).length := by
        rw [← hdrop, List.length_drop]
      have hwhole : ¬((x :: xs).take size).length < min (x :: xs).length size := by
        rw [List.length_take]
        omega
      unfold readBack
      simp only [htake, hdrop, hrest, ih, hwhole, if_false]
      rfl

/-- A content that is too short breaks off. -/
theorem readBack_short (hsize : 0 < size) (hbound : remaining ≤ bound)
    (hshort : content.length < remaining) :
    ∃ chunks : List Bytes,
      readBack size bound remaining content = chunks.map .ok ++ [.error .endOfFile] := by
  induction bound generalizing remaining content with
  | zero => omega
  | succ bound ih =>
    unfold readBack
    rw [if_neg (by omega)]
    simp only [List.length_take]
    -- The content runs out in this piece, or in one of the next.
    split
    · exact ⟨[], rfl⟩
    · have hrest : (content.drop (min remaining size)).length < remaining - min remaining size := by
        rw [List.length_drop]
        omega
      have hbound' : remaining - min remaining size ≤ bound := by omega
      obtain ⟨chunks, hchunks⟩ := ih hbound' hrest
      exact ⟨content.take (min remaining size) :: chunks, by rw [hchunks]; rfl⟩

/-- What was staged without a gap at its end is uploaded in pieces. -/
theorem upload_eq (h : s.content.length = s.length) (size : Nat) :
    s.upload size = .ofChunks (Bytes.pieces size s.content) := by
  have hread := readBack_content (Bytes.pieceSize size) s.content.length s.content
  unfold upload
  rw [← h]
  exact congrArg (PayloadStream.mk · false) hread

/-- What is shorter than the staged length breaks off. -/
theorem drain_upload_short (h : s.content.length < s.length) (size : Nat) :
    (s.upload size).drain = .failed .endOfFile := by
  obtain ⟨chunks, hbroken⟩ := readBack_short (Bytes.pieceSize_pos size) (Nat.le_refl _) h
  unfold upload
  rw [← Bytes.pieceSize, hbroken, PayloadStream.drain_broken]

/-- So it is not uploaded. -/
theorem upload_incomplete (h : s.content.length < s.length) (size : Nat) :
    ¬(s.upload size).Complete := by
  rintro ⟨seen, hdrain⟩
  rw [drain_upload_short h] at hdrain
  cases hdrain

/-! ## Writes one after the other -/

/-- Each chunk is written where the one before it ended. -/
def successive : (offset : Nat) → List Bytes → List (Nat × Bytes)
  | _, [] => []
  | offset, chunk :: rest => (offset, chunk) :: successive (offset + chunk.length) rest

/-- A write at the end is put behind what is there. -/
theorem overlay_at_end (content data : Bytes) :
    overlay content (content.length, data) = content ++ data := by
  cases data with
  | nil => simp [overlay]
  | cons x xs => simp [overlay]

theorem foldl_overlay_successive (content : Bytes) (chunks : List Bytes) :
    (successive content.length chunks).foldl overlay content = content ++ chunks.flatten := by
  induction chunks generalizing content with
  | nil => simp [successive]
  | cons chunk rest ih =>
    rw [successive, List.foldl_cons, overlay_at_end, ← List.length_append, ih, List.flatten_cons,
      List.append_assoc]

theorem content_successive (chunks : List Bytes) :
    (Staging.mk (successive 0 chunks)).content = chunks.flatten :=
  foldl_overlay_successive [] chunks

theorem furthest_successive (offset : Nat) (chunks : List Bytes) :
    max offset (furthest (successive offset chunks)) = offset + chunks.flatten.length := by
  induction chunks generalizing offset with
  | nil => simp [successive, furthest]
  | cons chunk rest ih =>
    have hrest := ih (offset + chunk.length)
    simp only [successive, furthest, stop, List.flatten_cons, List.length_append]
    omega

theorem length_successive (chunks : List Bytes) :
    (Staging.mk (successive 0 chunks)).length = chunks.flatten.length := by
  rw [length_eq_furthest, ← Nat.zero_max (furthest _), furthest_successive, Nat.zero_add]

end ObjectGateway.Staging
