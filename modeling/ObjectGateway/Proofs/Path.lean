import ObjectGateway.Path
import ObjectGateway.Proofs.Identifier
/-!
# Paths, read and written

The segments of a path that was read are not empty and hold no slash. A path with such
segments is read again from the text that it is written as.
-/
namespace ObjectGateway

namespace Segments

variable {sep : Char} {cs piece : List Char}

/-- No piece holds the separator. -/
theorem sep_notMem_of_mem_split (h : piece ∈ split sep cs) : sep ∉ piece := by
  induction cs generalizing piece with
  | nil =>
    obtain rfl := List.mem_singleton.mp h
    exact List.not_mem_nil
  | cons c cs ih =>
    unfold split at h
    split at h
    · obtain rfl | hrest := List.mem_cons.mp h
      · exact List.not_mem_nil
      · exact ih hrest
    · rename_i hc
      split at h
      · obtain rfl := List.mem_singleton.mp h
        simpa using Ne.symm hc
      · rename_i first rest hsplit
        rw [hsplit] at ih
        obtain rfl | hrest := List.mem_cons.mp h
        · have hfirst : sep ∉ first := ih List.mem_cons_self
          simp [hfirst, Ne.symm hc]
        · exact ih (List.mem_cons_of_mem first hrest)

/-- Only nothing at all has no more than one empty piece. -/
theorem eq_nil_of_split (h : split sep cs = [[]]) : cs = [] := by
  cases cs with
  | nil => rfl
  | cons c cs =>
    unfold split at h
    split at h
    · exact absurd (List.cons.inj h).2 (split_ne_nil sep cs)
    · split at h
      · cases h
      · cases h

end Segments

namespace FsPath

/-- A text that can stand between two slashes of a path. -/
def IsSegment (s : String) : Prop :=
  s ≠ "" ∧ '/' ∉ s.toList

/-- Every segment of a path is of the kind `P`. -/
def Each (P : String → Prop) : FsPath → Prop
  | root => True
  | bucket b => P b
  | object b o => P b ∧ P o

variable {raw : String} {p : FsPath} {cs : List Char}

theorem isSegment_ofList (hne : cs ≠ []) (hslash : '/' ∉ cs) : IsSegment (String.ofList cs) := by
  constructor
  · intro h
    apply hne
    simpa using congrArg String.toList h
  · simpa using hslash

theorem each_true (p : FsPath) : p.Each fun _ => True := by
  cases p <;> simp [Each]

/-- What is read from a text has segments. -/
theorem each_of_parse (h : parse raw = .ok p) : p.Each IsSegment := by
  unfold parse at h
  dsimp only at h
  split at h
  · cases h
    trivial
  · rename_i hsome
    split at h
    · cases h
    · -- The pieces hold no slash, and neither the only one nor one of two is empty.
      split at h
      · rename_i b hsplit
        cases h
        refine isSegment_ofList ?_ (Segments.sep_notMem_of_mem_split (hsplit ▸ List.mem_singleton_self b))
        rintro rfl
        exact hsome (List.isEmpty_iff.mpr (Segments.eq_nil_of_split hsplit))
      · rename_i b o hsplit
        have hslash : ∀ piece ∈ [b, o], '/' ∉ piece := fun piece hpiece =>
          Segments.sep_notMem_of_mem_split (hsplit ▸ hpiece)
        split at h
        · cases h
        · rename_i hfull
          cases h
          simp only [List.isEmpty_iff, not_or] at hfull
          exact ⟨isSegment_ofList hfull.1 (hslash b (by simp)),
            isSegment_ofList hfull.2 (hslash o (by simp))⟩
      · cases h

theorem dropTrailing_of_notMem (cs : List Char) {tail : List Char} (hne : tail ≠ []) (h : '/' ∉ tail) :
    dropTrailing (cs ++ tail) = cs ++ tail := by
  unfold dropTrailing
  rw [if_neg]
  intro hlast
  rw [List.getLast?_append, List.getLast?_eq_some_getLast hne, Option.some_or] at hlast
  exact h (Option.some.inj hlast ▸ List.getLast_mem hne)

/-- A path with segments is read from its text. -/
theorem parse_text (h : p.Each IsSegment) : parse p.text = .ok p := by
  cases p with
  | root => rfl
  | bucket b =>
    obtain ⟨hne, hslash⟩ := h
    have hne' : b.toList ≠ [] := by simpa using hne
    have htext : (bucket b).text.toList = '/' :: b.toList := by simp [text]
    have htrim : dropTrailing b.toList = b.toList := dropTrailing_of_notMem [] hne' hslash
    unfold parse
    simp only [htext, dropLeading, htrim, Segments.split_of_notMem _ _ hslash]
    simp [hne']
  | object b o =>
    obtain ⟨⟨hb, hbslash⟩, ho, hoslash⟩ := h
    have hb' : b.toList ≠ [] := by simpa using hb
    have ho' : o.toList ≠ [] := by simpa using ho
    have htext : (object b o).text.toList = '/' :: (b.toList ++ '/' :: o.toList) := by
      simp [text]
    have htrim : dropTrailing (b.toList ++ '/' :: o.toList) = b.toList ++ '/' :: o.toList := by
      have hlast := dropTrailing_of_notMem (b.toList ++ ['/']) ho' hoslash
      simpa using hlast
    unfold parse
    simp only [htext, dropLeading, htrim, Segments.split_append _ _ _ hbslash,
      Segments.split_of_notMem _ _ hoslash]
    simp [hb', ho']

end FsPath

end ObjectGateway
