import ObjectGateway.Backend.Program
import ObjectGateway.Proofs.Host.FileTree
import ObjectGateway.Proofs.Identifier
/-!
# Files by the last name of their path

Wherever the directory of a file is, and however the way there is written, the file stands
under its own name: no file of another name is written or removed in its place.
-/
namespace ObjectGateway

namespace Segments

/-- A separator cuts a text in two, whose pieces are those of both parts. -/
theorem split_append_sep (sep : Char) (xs ys : List Char) :
    split sep (xs ++ sep :: ys) = split sep xs ++ split sep ys := by
  induction xs with
  | nil => simp [split]
  | cons x xs ih =>
    simp only [List.cons_append, split, ih]
    split
    · rfl
    · cases hsplit : split sep xs with
      | nil => exact absurd hsplit (split_ne_nil sep xs)
      | cons piece rest => rfl

end Segments

/-- A text that is a name of its own: it is not empty, has no slash, and is no dots. -/
structure IsName (name : String) : Prop where
  ne_empty : name ≠ ""
  noSlash : '/' ∉ name.toList
  ne_dot : name ≠ "."
  ne_dots : name ≠ ".."

/-- What is longer than two dots and has no slash is a name. -/
theorem IsName.of_length {name : String} (hlength : 2 < name.length)
    (hslash : '/' ∉ name.toList) : IsName name := by
  constructor
  case noSlash => exact hslash
  all_goals
    rintro rfl
    exact absurd hlength (by decide)

theorem Id.isName_text {kind : IdKind} (id : Id kind) : IsName id.text :=
  .of_length (by simp) (by simpa [text] using id.slash_notMem_chars)

/-- An identifier may have a mark in front. -/
theorem Id.isName_marked {kind : IdKind} {mark : String} (hmark : '/' ∉ mark.toList)
    (id : Id kind) : IsName (mark ++ id.text) := by
  refine .of_length ?_ ?_
  · rw [String.length_append, Id.length_text]
    omega
  · simpa using ⟨hmark, id.isName_text.noSlash⟩

namespace HostPath

variable {name : String}

/-- The last name of a path that ends in this name, after a slash or nothing. -/
theorem names_getLast? {p : HostPath} (front : List Char) (hname : IsName name)
    (htext : p.text.toList = front ++ name.toList)
    (hfront : front = [] ∨ ∃ before, front = before ++ ['/']) :
    p.names.getLast? = some name := by
  have hne : name.toList ≠ [] := by simpa using hname.ne_empty
  have hlast : Segments.split '/' name.toList = [name.toList] :=
    Segments.split_of_notMem _ _ hname.noSlash
  rw [names, htext]
  obtain rfl | ⟨before, rfl⟩ := hfront
  · simp [hlast, hne]
  · rw [List.append_assoc, List.singleton_append, Segments.split_append_sep, hlast]
    simp [hne]

/-- A name in a directory is the last one of its path. -/
theorem names_join (base : HostPath) (hname : IsName name) :
    (base.join name).names.getLast? = some name := by
  unfold join
  split
  · exact names_getLast? [] hname rfl (.inl rfl)
  · split
    · rename_i hclosed
      rw [isClosed, String.endsWith_eq_endsWith_toSlice,
        String.Slice.endsWith_string_iff] at hclosed
      obtain ⟨before, hbefore⟩ : "/".toList <:+ base.text.toList := by simpa using hclosed
      exact names_getLast? base.text.toList hname (by simp) (.inr ⟨before, hbefore.symm⟩)
    · exact names_getLast? (base.text.toList ++ ['/']) hname (by simp) (.inr ⟨_, rfl⟩)

end HostPath

namespace FileTree

variable {t t' : FileTree} {here l : Location} {p : HostPath} {name : String}

/-- A name leads one location further down. -/
theorem step_name (h : t.step here name = .ok l) (hname : IsName name) : l = here ++ [name] := by
  unfold step at h
  split at h
  · cases h
  · cases h
  · rw [if_neg hname.ne_dot, if_neg hname.ne_dots] at h
    split at h
    · cases h
    · cases h
      rfl

/-- What a path leads to has the last name of the path. -/
theorem reach_getLast? (h : t.reach here p = .ok l) (hname : IsName name)
    (hlast : p.names.getLast? = some name) : l.getLast? = some name := by
  obtain ⟨front, hfront⟩ := List.getLast?_eq_some_iff.mp hlast
  have hfold : p.names.foldlM t.step (if p.isAbsolute then [] else here) = .ok l := by
    unfold reach at h
    split at h
    · cases h
    · split at h
      · cases h
      · split at h
        · cases h
        · exact h
  rw [hfront, List.foldlM_append] at hfold
  cases hway : front.foldlM t.step (if p.isAbsolute then [] else here) with
  | error cause =>
    rw [hway] at hfold
    cases hfold
  | ok dir =>
    rw [hway] at hfold
    have hstep : t.step dir name = .ok l := by
      change List.foldlM t.step dir [name] = .ok l at hfold
      simpa using hfold
    rw [step_name hstep hname, List.getLast?_concat]

theorem reach_of_writableAt {old : Option Bytes} (h : t.writableAt here p = .ok (l, old)) :
    t.reach here p = .ok l := by
  unfold writableAt at h
  cases hreach : t.reach here p with
  | error cause =>
    rw [hreach] at h
    cases h
  | ok l' =>
    rw [hreach] at h
    simp only [bind, Except.bind] at h
    split at h
    · cases h
    · split at h
      · cases h
      · cases h
        rfl
      · cases h
        rfl

theorem reach_of_nodeAt {node : Node} (h : t.nodeAt here p = .ok (l, node)) :
    t.reach here p = .ok l := by
  unfold nodeAt at h
  cases hreach : t.reach here p with
  | error cause =>
    rw [hreach] at h
    cases h
  | ok l' =>
    rw [hreach] at h
    simp only [bind, Except.bind] at h
    split at h
    · cases h
    · cases h
      rfl
    · split at h
      · cases h
      · cases h
        rfl

/-- A file that is written is found under no other name. -/
theorem writeFileAt_view {data : Bytes} (h : t.writeFileAt here p data = .ok t')
    (hname : IsName name) (hlast : p.names.getLast? = some name) {l' : Location}
    (hother : l'.getLast? ≠ some name) : t'.find? l' = t.find? l' := by
  unfold writeFileAt at h
  cases hplace : t.writableAt here p with
  | error cause =>
    rw [hplace] at h
    cases h
  | ok place =>
    obtain ⟨l, old⟩ := place
    rw [hplace] at h
    cases h
    have hl := reach_getLast? (reach_of_writableAt hplace) hname hlast
    have hne : l ≠ [] := by
      rintro rfl
      cases hl
    rw [find?_set hne, if_neg]
    rintro rfl
    exact hother hl

/-- A file that is removed was found under no other name. -/
theorem removeFileAt_view (h : t.removeFileAt here p = .ok t') (hname : IsName name)
    (hlast : p.names.getLast? = some name) {l' : Location} (hother : l'.getLast? ≠ some name) :
    t'.find? l' = t.find? l' := by
  unfold removeFileAt at h
  cases hnode : t.nodeAt here p with
  | error cause =>
    rw [hnode] at h
    cases h
  | ok found =>
    obtain ⟨l, node⟩ := found
    rw [hnode] at h
    cases node with
    | dir => cases h
    | file data =>
      cases h
      rw [find?_erase, if_neg]
      rintro ⟨rfl, -⟩
      exact hother (reach_getLast? (reach_of_nodeAt hnode) hname hlast)

/-! ## Written and removed again -/

/-- A path leads where it led as long as the directories on the way are there. -/
theorem reach_of_dirs (hdirs : ∀ l, t.find? l = some .dir → t'.find? l = some .dir)
    (h : t.reach here p = .ok l) : t'.reach here p = .ok l := by
  have hstep : ∀ {at_ : Location} {name : String} {next : Location},
      t.step at_ name = .ok next → t'.step at_ name = .ok next := by
    intro at_ name next hnext
    unfold step at hnext ⊢
    split at hnext
    · cases hnext
    · cases hnext
    · rename_i hdir
      rwa [hdirs _ hdir]
  have hfold : ∀ (names : List String) {start : Location},
      names.foldlM t.step start = .ok l → names.foldlM t'.step start = .ok l := by
    intro names
    induction names with
    | nil => exact id
    | cons name names ih =>
      intro start hway
      rw [List.foldlM_cons] at hway ⊢
      cases hnext : t.step start name with
      | error cause =>
        rw [hnext] at hway
        cases hway
      | ok next =>
        rw [hnext] at hway
        rw [hstep hnext]
        exact ih hway
  unfold reach at h ⊢
  split at h
  · cases h
  · split at h
    · cases h
    · split at h
      · cases h
      · rw [if_neg ‹_›, if_neg ‹_›, if_neg ‹_›]
        exact hfold _ h

/-- A place that can be written to is no directory, and its path is not closed. -/
theorem writableAt_ok {old : Option Bytes} (h : t.writableAt here p = .ok (l, old)) :
    t.find? l ≠ some .dir ∧ p.isClosed = false := by
  have hreach := reach_of_writableAt h
  unfold writableAt at h
  rw [hreach] at h
  simp only [bind, Except.bind] at h
  split at h
  · cases h
  · rename_i hname
    have hclosed : p.isClosed = false := by
      cases hp : p.isClosed with
      | false => rfl
      | true => simp [hp] at hname
    split at h
    · cases h
    · rename_i hfile
      exact ⟨by simp [hfile], hclosed⟩
    · rename_i hnone
      exact ⟨by simp [hnone], hclosed⟩

/-- A file that has just been written can be removed, and then nothing stands in its place;
everything else is as it was before. -/
theorem removeFileAt_of_writeFileAt {data : Bytes} (h : t.writeFileAt here p data = .ok t') :
    ∃ l removed, t.reach here p = .ok l ∧ t.find? l ≠ some .dir ∧
      t'.removeFileAt here p = .ok removed ∧
      ∀ l', removed.find? l' = if l' = l then none else t.find? l' := by
  unfold writeFileAt at h
  cases hplace : t.writableAt here p with
  | error cause =>
    rw [hplace] at h
    cases h
  | ok place =>
    obtain ⟨l, old⟩ := place
    rw [hplace] at h
    cases h
    obtain ⟨hdir, hclosed⟩ := writableAt_ok hplace
    have hreach := reach_of_writableAt hplace
    have hne : l ≠ [] := by
      rintro rfl
      exact hdir (find?_root t)
    have hview : ∀ l', (t.set l (.file data)).find? l' =
        if l' = l then some (.file data) else t.find? l' := find?_set hne
    have hdirs : ∀ l', t.find? l' = some .dir → (t.set l (.file data)).find? l' = some .dir := by
      intro l' hl'
      rw [hview, if_neg]
      · exact hl'
      · rintro rfl
        exact hdir hl'
    have hthere : (t.set l (.file data)).find? l = some (.file data) := by rw [hview, if_pos rfl]
    have hremove : (t.set l (.file data)).removeFileAt here p =
        .ok ((t.set l (.file data)).erase l) := by
      simp [removeFileAt, nodeAt, reach_of_dirs hdirs hreach, bind, Except.bind, hthere, hclosed,
        pure, Except.pure]
    refine ⟨l, _, hreach, hdir, hremove, fun l' => ?_⟩
    rw [find?_erase, hview]
    by_cases hl' : l' = l
    · rw [if_pos ⟨hl', hl' ▸ hne⟩, if_pos hl']
    · rw [if_neg fun hand => hl' hand.1, if_neg hl', if_neg hl']

end FileTree
end ObjectGateway
