import Mathlib.Data.List.Induction
import ObjectGateway.Proofs.Host.FileTree
/-!
# Trees in layers

Below the directory `base` of a layered tree, files stand exactly `depth` names
further down and directories less far, each in a directory. So no file is ever in the
way of a directory, or the other way round, and every operation on such a tree
succeeds or fails by what is found at its location alone.
-/
namespace ObjectGateway.FileTree

/-- What stands below `base` is filed `depth` names down. -/
structure Layered (base : Location) (depth : Nat) (t : FileTree) : Prop where
  above : ∀ {l}, l <+: base → t.find? l = some .dir
  parent : ∀ {k name}, t.find? (base ++ (k ++ [name])) ≠ none → t.find? (base ++ k) = some .dir
  dirs : ∀ {k}, t.find? (base ++ k) = some .dir → k.length < depth
  files : ∀ {k data}, t.find? (base ++ k) = some (.file data) → k.length = depth

variable {t : FileTree} {base k k' : Location} {name : String} {node : Node} {data : Bytes}
  {depth : Nat}

/-! ## The view below `base` -/

theorem find?_set_below (hk : k ≠ []) (node : Node) (k' : Location) :
    (t.set (base ++ k) node).find? (base ++ k') =
      if k' = k then some node else t.find? (base ++ k') := by
  have hl : base ++ k ≠ [] := by simp [hk]
  simp [find?_set hl]

theorem find?_erase_below (hk : k ≠ []) (k' : Location) :
    (t.erase (base ++ k)).find? (base ++ k') =
      if k' = k then none else t.find? (base ++ k') := by
  by_cases h : k' = k
  · simp [find?_erase, h, hk]
  · simp [find?_erase, h]

theorem find?_prune_below (hk : k ≠ []) (k' : Location) :
    (t.prune (base ++ k)).find? (base ++ k') =
      if k <+: k' then none else t.find? (base ++ k') := by
  have hl : base ++ k ≠ [] := by simp [hk]
  simp [find?_prune hl, Location.within_iff]

/-! ## Looking up -/

/-- A directory that is removed was there and held nothing. -/
theorem removeDir_inv {l : Location} {t' : FileTree} (h : t.removeDir l = .ok t') :
    t.find? l = some .dir ∧ ¬t.isOccupied l ∧ t' = t.erase l := by
  cases hlookup : t.lookup l with
  | error cause =>
    rw [removeDir, hlookup] at h
    cases h
  | ok node =>
    rw [removeDir, hlookup] at h
    cases node with
    | file data => cases h
    | dir =>
      by_cases hocc : t.isOccupied l
      · simp only [hocc] at h
        cases h
      · refine ⟨find?_of_lookup hlookup, hocc, ?_⟩
        simp only [hocc] at h
        cases h
        rfl

/-- Right below a directory that holds nothing nothing is found. -/
theorem leaf_of_empty (h : ¬t.isOccupied (base ++ k)) (name : String) :
    t.find? (base ++ (k ++ [name])) = none := by
  by_contra hfind
  refine h (isOccupied_iff.mpr ⟨_, ?_, ?_, hfind⟩)
  · simp
  · simp

namespace Layered

/-- Directories lead to everything that is found. -/
theorem dir_above (h : t.Layered base depth) (hk' : k' ≠ [])
    (hfind : t.find? (base ++ (k ++ k')) ≠ none) : t.find? (base ++ k) = some .dir := by
  -- From the end upwards: whatever is found has a directory right above it.
  induction k' using List.reverseRecOn with
  | nil => exact absurd rfl hk'
  | append_singleton k' name ih =>
    rw [← List.append_assoc k] at hfind
    have hparent := h.parent hfind
    by_cases hnil : k' = []
    · simpa [hnil] using hparent
    · exact ih hnil (by simp [hparent])

theorem parent_of_found (h : t.Layered base depth)
    (hfind : t.find? (base ++ (k ++ [name])) = some node) : t.find? (base ++ k) = some .dir :=
  h.parent (Option.ne_none_iff_exists'.mpr ⟨node, hfind⟩)

/-- All that leads to a directory below `base` is a directory. -/
theorem dirs_above (h : t.Layered base depth) (hdir : t.find? (base ++ k) = some .dir)
    (hk' : k' <+: k) : t.find? (base ++ k') = some .dir := by
  obtain ⟨rest, rfl⟩ := hk'
  by_cases hrest : rest = []
  · simpa [hrest] using hdir
  · exact h.dir_above hrest (by simp [hdir])

/-- Nothing is found below what is missing. -/
theorem missing_below (h : t.Layered base depth) (hfind : t.find? (base ++ k) = none)
    (k' : Location) : t.find? (base ++ (k ++ k')) = none := by
  by_cases hk' : k' = []
  · simpa [hk'] using hfind
  · by_contra hsome
    have hdir := h.dir_above hk' hsome
    simp [hfind] at hdir

theorem lookup_base (h : t.Layered base depth) : t.lookup base = .ok .dir :=
  lookup_eq_dir_iff.mpr fun _ hl => h.above hl

/-- Down to the files, a walk leads to what is found at its end. -/
theorem walk_below (h : t.Layered base depth) (k' : Location)
    (hdepth : (k ++ k').length ≤ depth) : t.walk (base ++ k) k' = match t.find? (base ++ (k ++ k')) with
      | some node => .ok node
      | none => .error .notFound := by
  -- A walk is stopped by a file only, and there is none above the depth of files.
  induction k' generalizing k with
  | nil =>
    cases hfind : t.find? (base ++ k) <;> simp [walk, hfind]
  | cons name rest ih =>
    cases hfind : t.find? (base ++ k) with
    | none => simp [walk, hfind, h.missing_below hfind]
    | some node =>
      cases node with
      | file data =>
        have hlen := h.files hfind
        simp at hdepth
        omega
      | dir =>
        have hassoc : k ++ [name] ++ rest = k ++ name :: rest := by simp
        have hrest := ih (k := k ++ [name]) (by rwa [hassoc])
        rw [hassoc, ← List.append_assoc] at hrest
        rw [walk, hfind]
        exact hrest

theorem lookup_below (h : t.Layered base depth) (hdepth : k.length ≤ depth) :
    t.lookup (base ++ k) = match t.find? (base ++ k) with
      | some node => .ok node
      | none => .error .notFound := by
  have hwalk := h.walk_below (k := []) k hdepth
  simp only [List.append_nil, List.nil_append] at hwalk
  have happend : t.walk [] (base ++ k) = t.walk ([] ++ base) k := walk_append h.lookup_base
  rw [lookup, happend, List.nil_append, hwalk]

theorem lookup_found (h : t.Layered base depth) (hfind : t.find? (base ++ k) = some node) :
    t.lookup (base ++ k) = .ok node := by
  have hdepth : k.length ≤ depth := by
    cases node with
    | dir => exact Nat.le_of_lt (h.dirs hfind)
    | file data => exact Nat.le_of_eq (h.files hfind)
  rw [h.lookup_below hdepth, hfind]

theorem checkParent_below (h : t.Layered base depth) (hdir : t.find? (base ++ k) = some .dir) :
    t.checkParent (base ++ (k ++ [name])) = .ok () := by
  rw [checkParent, ← List.append_assoc, List.dropLast_concat, h.lookup_found hdir]
  rfl

/-! ## Changed trees -/

/-- The tree stays layered when it is changed below `base` only, in such a way that
every node still stands in a directory and at its depth. -/
theorem of_below {t' : FileTree} (h : t.Layered base depth)
    (habove : ∀ l, l <+: base → t'.find? l = t.find? l)
    (hnode : ∀ k node, t'.find? (base ++ k) = some node → t.find? (base ++ k) ≠ some node →
      if node = .dir then k.length < depth else k.length = depth)
    (hparent : ∀ k name, t'.find? (base ++ (k ++ [name])) ≠ none →
      t'.find? (base ++ k) = some .dir) : t'.Layered base depth where
  above hl := (habove _ hl).trans (h.above hl)
  parent := hparent _ _
  dirs {k} hfind := by
    by_cases hold : t.find? (base ++ k) = some .dir
    · exact h.dirs hold
    · simpa using hnode k .dir hfind hold
  files {k data} hfind := by
    by_cases hold : t.find? (base ++ k) = some (.file data)
    · exact h.files hold
    · simpa using hnode k (.file data) hfind hold

/-- A location below `base` is not on the way to it. -/
theorem not_prefix_base (hk : k ≠ []) {l : Location} (hl : l <+: base) : l ≠ base ++ k := by
  rintro rfl
  have hlength := hl.length_le
  have hbelow := List.length_pos_iff.mpr hk
  rw [List.length_append] at hlength
  omega

theorem set_below (h : t.Layered base depth) (hdir : t.find? (base ++ k) = some .dir)
    (name : String) (node : Node)
    (hdepth : if node = .dir then k.length + 1 < depth else k.length + 1 = depth) :
    (t.set (base ++ (k ++ [name])) node).Layered base depth := by
  have hne : k ++ [name] ≠ [] := by simp
  have hl : base ++ (k ++ [name]) ≠ [] := by simp
  -- The new node takes the place of no directory that something may lie below.
  have hkeep : ∀ j, t.find? (base ++ j) = some .dir → j.length < depth →
      (t.set (base ++ (k ++ [name])) node).find? (base ++ j) = some .dir := by
    intro j hj hlt
    rw [find?_set_below hne]
    split
    · rename_i heq
      cases node with
      | dir => rfl
      | file data =>
        simp [heq] at hdepth hlt
        omega
    · exact hj
  refine h.of_below (fun l hbase => ?_) (fun j found hfind hold => ?_) (fun j last hfind => ?_)
  · rw [find?_set hl, if_neg (not_prefix_base hne hbase)]
  · rw [find?_set_below hne] at hfind
    split at hfind
    · rename_i heq
      obtain rfl : node = found := by simpa using hfind
      simpa [heq] using hdepth
    · exact absurd hfind hold
  · rw [find?_set_below hne] at hfind
    split at hfind
    · rename_i heq
      obtain ⟨rfl, -⟩ := List.append_inj' heq rfl
      exact hkeep j hdir (h.dirs hdir)
    · exact hkeep j (h.parent hfind) (h.dirs (h.parent hfind))

/-- The tree stays layered without a node that nothing lies below. -/
theorem erase_below (h : t.Layered base depth) (hk : k ≠ [])
    (hleaf : ∀ name, t.find? (base ++ (k ++ [name])) = none) :
    (t.erase (base ++ k)).Layered base depth := by
  refine h.of_below (fun l hbase => ?_) (fun j found hfind hold => ?_) (fun j last hfind => ?_)
  · rw [find?_erase, if_neg fun hand => not_prefix_base hk hbase hand.1]
  · rw [find?_erase_below hk] at hfind
    split at hfind
    · cases hfind
    · exact absurd hfind hold
  · rw [find?_erase_below hk] at hfind
    split at hfind
    · exact absurd rfl hfind
    · rw [find?_erase_below hk]
      split
      · rename_i heq
        exact absurd (hleaf last) (heq ▸ hfind)
      · exact h.parent hfind

theorem prune_below (h : t.Layered base depth) (hk : k ≠ []) :
    (t.prune (base ++ k)).Layered base depth := by
  have hl : base ++ k ≠ [] := by simp [hk]
  refine h.of_below (fun l hbase => ?_) (fun j found hfind hold => ?_) (fun j last hfind => ?_)
  · rw [find?_prune hl, if_neg]
    intro hwithin
    have := (Location.within_iff.mp hwithin).trans hbase
    exact not_prefix_base hk this rfl
  · rw [find?_prune_below hk] at hfind
    split at hfind
    · cases hfind
    · exact absurd hfind hold
  · rw [find?_prune_below hk] at hfind
    split at hfind
    · exact absurd rfl hfind
    · rename_i hnot
      rw [find?_prune_below hk, if_neg fun hpre => hnot (hpre.trans (List.prefix_append _ _))]
      exact h.parent hfind

/-! ## Files -/

/-- A file is written in a directory at the depth of files. -/
theorem writeFile_below (h : t.Layered base depth) (hdir : t.find? (base ++ k) = some .dir)
    (hdepth : k.length + 1 = depth) (data : Bytes) :
    t.writeFile (base ++ (k ++ [name])) data = .ok (t.set (base ++ (k ++ [name])) (.file data)) := by
  have hnotDir : t.find? (base ++ (k ++ [name])) ≠ some .dir := by
    intro hfind
    have hlt := h.dirs hfind
    rw [List.length_append, List.length_singleton] at hlt
    omega
  simp only [writeFile, h.checkParent_below hdir]
  cases hfind : t.find? (base ++ (k ++ [name])) with
  | none => rfl
  | some node =>
    cases node with
    | dir => exact absurd hfind hnotDir
    | file _ => rfl

theorem readFile_below (h : t.Layered base depth) (hfile : t.find? (base ++ k) = some (.file data)) :
    t.readFile (base ++ k) = .ok data := by
  simp only [readFile, h.lookup_found hfile]
  rfl

theorem removeFile_below (h : t.Layered base depth)
    (hfile : t.find? (base ++ k) = some (.file data)) :
    t.removeFile (base ++ k) = .ok (t.erase (base ++ k)) := by
  simp only [removeFile, h.lookup_found hfile]
  rfl

/-- A file takes another name in its directory. -/
theorem rename_below (h : t.Layered base depth) {source target : String}
    (hfile : t.find? (base ++ (k ++ [source])) = some (.file data)) :
    t.rename (base ++ (k ++ [source])) (base ++ (k ++ [target])) =
      .ok ((t.erase (base ++ (k ++ [source]))).set (base ++ (k ++ [target])) (.file data)) := by
  have hdir := h.parent_of_found hfile
  have hnotDir : t.find? (base ++ (k ++ [target])) ≠ some .dir := by
    intro hfind
    have hlt := h.dirs hfind
    have hlen := h.files hfile
    rw [List.length_append, List.length_singleton] at hlt hlen
    omega
  simp only [rename, h.readFile_below hfile, h.checkParent_below hdir]
  cases hfind : t.find? (base ++ (k ++ [target])) with
  | none => rfl
  | some node =>
    cases node with
    | dir => exact absurd hfind hnotDir
    | file _ => rfl

/-- Nothing lies below a file. -/
theorem leaf_of_file (h : t.Layered base depth) (hfile : t.find? (base ++ k) = some (.file data))
    (name : String) : t.find? (base ++ (k ++ [name])) = none := by
  by_contra hfind
  have hdir := h.parent hfind
  simp [hfile] at hdir

/-- A file is written under one name and then moved to another one. -/
theorem rename_written (h : t.Layered base depth) (hdir : t.find? (base ++ k) = some .dir)
    (hdepth : k.length + 1 = depth) (source target : String) (data : Bytes) :
    ∃ t' : FileTree, (t.set (base ++ (k ++ [source])) (.file data)).rename
        (base ++ (k ++ [source])) (base ++ (k ++ [target])) = .ok t' ∧
      t'.Layered base depth ∧
      ∀ j, t'.find? (base ++ j) = if j = k ++ [target] then some (.file data)
        else if j = k ++ [source] then none else t.find? (base ++ j) := by
  have hne : k ≠ k ++ [source] := by simp
  have hwritten := h.set_below hdir source (.file data) (by simpa using hdepth)
  have hfile : (t.set (base ++ (k ++ [source])) (.file data)).find? (base ++ (k ++ [source])) =
      some (.file data) := by
    rw [find?_set_below (by simp), if_pos rfl]
  have herased := hwritten.erase_below (k := k ++ [source]) (by simp) (hwritten.leaf_of_file hfile)
  have hdir' : ((t.set (base ++ (k ++ [source])) (.file data)).erase
      (base ++ (k ++ [source]))).find? (base ++ k) = some .dir := by
    rw [find?_erase_below (by simp), if_neg hne, find?_set_below (by simp), if_neg hne, hdir]
  refine ⟨_, hwritten.rename_below hfile,
    herased.set_below hdir' target (.file data) (by simpa using hdepth), fun j => ?_⟩
  rw [find?_set_below (by simp), find?_erase_below (by simp), find?_set_below (by simp)]
  split
  · rfl
  · split <;> rfl

/-! ## Directories -/

theorem removeDirs_below (h : t.Layered base depth) (hdir : t.find? (base ++ k) = some .dir) :
    t.removeDirs (base ++ k) = .ok (t.prune (base ++ k)) := by
  simp only [removeDirs, h.lookup_found hdir]
  rfl

theorem makeDir_present (h : t.Layered base depth)
    (hdir : t.find? (base ++ (k ++ [name])) = some .dir) :
    t.makeDir (base ++ (k ++ [name])) = .error .alreadyExists := by
  have hparent := h.parent_of_found hdir
  simp only [makeDir, h.checkParent_below hparent, hdir]
  rfl

theorem makeDir_missing (h : t.Layered base depth) (hparent : t.find? (base ++ k) = some .dir)
    (hnone : t.find? (base ++ (k ++ [name])) = none) :
    t.makeDir (base ++ (k ++ [name])) = .ok (t.set (base ++ (k ++ [name])) .dir) := by
  simp only [makeDir, h.checkParent_below hparent, hnone]
  rfl

theorem makeDir_orphan (h : t.Layered base depth) (name : String) (hdepth : k.length ≤ depth)
    (hnone : t.find? (base ++ k) = none) :
    t.makeDir (base ++ (k ++ [name])) = .error .notFound := by
  have hlookup : t.lookup (base ++ k) = .error .notFound := by
    rw [h.lookup_below hdepth, hnone]
  rw [makeDir, checkParent, ← List.append_assoc, List.dropLast_concat, hlookup]
  rfl

theorem isDir_below (h : t.Layered base depth) (hdir : t.find? (base ++ k) = some .dir) :
    t.isDir (base ++ k) = true := by
  simp only [isDir, h.lookup_found hdir]

/-- Making the directory `base`, which is there. -/
theorem makeDirs_base (h : t.Layered base depth) : t.makeDirs base = (.ok (), t) := by
  cases base using List.reverseRecOn with
  | nil => rfl
  | append_singleton outer name =>
    have hdir : t.isDir (outer ++ [name]) = true := by
      simpa using h.isDir_below (k := []) (h.above (List.append_nil _ ▸ List.prefix_refl _))
    have hparent : t.lookup outer = .ok .dir :=
      lookup_eq_dir_iff.mpr fun l hl => h.above (hl.trans (List.prefix_append _ _))
    have hself : t.find? (outer ++ [name]) = some .dir := h.above (List.prefix_refl _)
    have hmake : t.makeDir (outer ++ [name]) = .error .alreadyExists := by
      simp only [makeDir, checkParent, List.dropLast_concat, hparent, hself]
      rfl
    simp [makeDirs, makeDirs.go, hmake, hdir]

/-- A chain of directories is made, as far as it is missing, and nothing else. -/
theorem makeDirs_below (h : t.Layered base depth) (hdepth : k.length < depth) :
    ∃ t' : FileTree, t.makeDirs (base ++ k) = (.ok (), t') ∧ t'.Layered base depth ∧
      ∀ j, t'.find? (base ++ j) = if j <+: k then some .dir else t.find? (base ++ j) := by
  -- The last directory is tried first; only when its parent is missing is that made before.
  induction k using List.reverseRecOn with
  | nil =>
    refine ⟨t, by simpa using h.makeDirs_base, h, fun j => ?_⟩
    split
    · rename_i hj
      simpa [List.prefix_nil.mp hj] using h.above (List.prefix_refl base)
    · rfl
  | append_singleton k name ih =>
    have hlen : k.length < depth := by
      simp at hdepth
      omega
    cases hfind : t.find? (base ++ (k ++ [name])) with
    | some node =>
      -- The whole chain is there: what is found at its end is no file, for its depth.
      have hdir : t.find? (base ++ (k ++ [name])) = some .dir := by
        cases node with
        | dir => exact hfind
        | file data => exact absurd (h.files hfind) (Nat.ne_of_lt hdepth)
      refine ⟨t, ?_, h, fun j => ?_⟩
      · have hmake := h.makeDir_present hdir
        have hisDir := h.isDir_below hdir
        simp [makeDirs, makeDirs.go, hmake, hisDir]
      · split
        · exact h.dirs_above hdir ‹_›
        · rfl
    | none =>
      cases hparent : t.find? (base ++ k) with
      | some node =>
        have hdir : t.find? (base ++ k) = some .dir := by
          cases node with
          | dir => exact hparent
          | file data => exact absurd (h.files hparent) (Nat.ne_of_lt hlen)
        refine ⟨_, ?_, h.set_below hdir name .dir (by simpa using hdepth), fun j => ?_⟩
        · have hmake := h.makeDir_missing hdir hfind
          simp [makeDirs, makeDirs.go, hmake]
        · simp only [find?_set_below (k := k ++ [name]) (by simp), List.prefix_concat_iff]
          by_cases hj : j <+: k
          · simp [hj, h.dirs_above hdir hj]
          · simp [hj]
      | none =>
        obtain ⟨t₁, hmade, hlayered, hview⟩ := ih hlen
        have hdir : t₁.find? (base ++ k) = some .dir := by simp [hview]
        have hmissing : t₁.find? (base ++ (k ++ [name])) = none := by
          rw [hview, if_neg, hfind]
          intro hpre
          have hlength := hpre.length_le
          simp only [List.length_append, List.length_singleton] at hlength
          omega
        refine ⟨_, ?_, hlayered.set_below hdir name .dir (by simpa using hdepth), fun j => ?_⟩
        · have horphan := h.makeDir_orphan name (Nat.le_of_lt hlen) hparent
          have hmake := hlayered.makeDir_missing hdir hmissing
          have hgo : makeDirs.go t (base ++ k).reverse = (.ok (), t₁) := hmade
          simp only [List.reverse_append] at hgo
          simp [makeDirs, makeDirs.go, horphan, hgo, hmake]
        · simp only [find?_set_below (k := k ++ [name]) (by simp), List.prefix_concat_iff, hview]
          by_cases hj : j = k ++ [name] <;> simp [hj]

/-- What is cleared away are empty directories below `stop`. -/
theorem removeEmpty_below (h : t.Layered base depth) (stop : Location) (bound : Nat)
    (k : Location) :
    (t.removeEmpty (base ++ stop) bound (base ++ k)).Layered base depth ∧
      ∀ j, (t.removeEmpty (base ++ stop) bound (base ++ k)).find? (base ++ j) =
          t.find? (base ++ j) ∨
        (t.removeEmpty (base ++ stop) bound (base ++ k)).find? (base ++ j) = none ∧
          t.find? (base ++ j) = some .dir ∧ stop <+: j ∧ j ≠ stop := by
  -- From `k` upwards, as long as what is there is an empty directory below `stop`.
  induction bound generalizing t k with
  | zero => exact ⟨h, fun _ => .inl rfl⟩
  | succ bound ih =>
    simp only [removeEmpty]
    split
    · rename_i hcond
      have hstop : stop <+: k ∧ k ≠ stop := by
        simpa [Location.within_iff, List.prefix_append_right_inj] using hcond
      have hk : k ≠ [] := by
        rintro rfl
        exact hstop.2 (List.prefix_nil.mp hstop.1).symm
      cases hremove : t.removeDir (base ++ k) with
      | error cause => exact ⟨h, fun _ => .inl rfl⟩
      | ok t₁ =>
        obtain ⟨hdir, hempty, rfl⟩ := removeDir_inv hremove
        have hlast : (base ++ k).dropLast = base ++ k.dropLast := List.dropLast_append_of_ne_nil hk
        obtain ⟨hlayered, hview⟩ := ih (h.erase_below hk (leaf_of_empty hempty)) k.dropLast
        rw [hlast]
        refine ⟨hlayered, fun j => ?_⟩
        obtain hsame | ⟨hnone, hold, hbelow⟩ := hview j
        · rw [find?_erase_below hk] at hsame
          by_cases hj : j = k
          · rw [if_pos hj] at hsame
            exact .inr ⟨hsame, hj ▸ hdir, hj ▸ hstop⟩
          · rw [if_neg hj] at hsame
            exact .inl hsame
        · rw [find?_erase_below hk] at hold
          by_cases hj : j = k
          · simp [hj] at hold
          · rw [if_neg hj] at hold
            exact .inr ⟨hnone, hold, hbelow⟩
    · exact ⟨h, fun _ => .inl rfl⟩

/-- Clearing away stops only where something else is found: a directory on the way from `stop`
to `k` that stays leads to a node that is not on this way. -/
theorem removeEmpty_stays (h : t.Layered base depth) {stop j : Location} {bound : Nat}
    (hdir : t.find? (base ++ k) = some .dir) (hbound : k.length ≤ stop.length + bound)
    (hstop : stop <+: j) (hbelow : j ≠ stop) (hj : j <+: k)
    (hstays : (t.removeEmpty (base ++ stop) bound (base ++ k)).find? (base ++ j) = some .dir) :
    ∃ j', j <+: j' ∧ ¬j' <+: k ∧ t.find? (base ++ j') ≠ none := by
  have hlong : stop.length < j.length :=
    Nat.lt_of_le_of_ne hstop.length_le fun hlen => hbelow (hstop.eq_of_length hlen).symm
  -- From `k` upwards, as long as what is there is empty. What is not is occupied off the way.
  induction bound generalizing t k with
  | zero =>
    have hshort := hj.length_le
    omega
  | succ bound ih =>
    cases k using List.reverseRecOn with
    | nil =>
      rw [List.prefix_nil.mp hj, List.length_nil] at hlong
      omega
    | append_singleton k name =>
      have hk : k ++ [name] ≠ [] := by simp
      have hcond : ((base ++ stop).within (base ++ (k ++ [name])) &&
          base ++ (k ++ [name]) != base ++ stop) = true := by
        have hne : k ++ [name] ≠ stop := by
          rintro rfl
          exact absurd hj.length_le (Nat.not_le.mpr hlong)
        simpa [Location.within_iff, List.prefix_append_right_inj, hne] using hstop.trans hj
      rw [removeEmpty, if_pos hcond] at hstays
      by_cases hocc : t.isOccupied (base ++ (k ++ [name]))
      · obtain ⟨l, ⟨rest, rfl⟩, hne, hfind⟩ := isOccupied_iff.mp hocc
        refine ⟨k ++ [name] ++ rest, hj.trans (List.prefix_append _ rest), fun hpre => hne ?_, ?_⟩
        · rw [List.append_assoc, hpre.eq_of_length_le (List.prefix_append _ rest).length_le]
        · rwa [← List.append_assoc]
      · have hremove : t.removeDir (base ++ (k ++ [name])) =
            .ok (t.erase (base ++ (k ++ [name]))) := by
          simp only [removeDir, h.lookup_found hdir, hocc]
          rfl
        have herased := h.erase_below hk (leaf_of_empty hocc)
        have hlast : (base ++ (k ++ [name])).dropLast = base ++ k := by
          rw [← List.append_assoc, List.dropLast_concat]
        have hdir' : (t.erase (base ++ (k ++ [name]))).find? (base ++ k) = some .dir := by
          rw [find?_erase_below hk, if_neg (by simp), h.parent_of_found hdir]
        rw [hremove, hlast] at hstays
        -- Clearing away makes no directory, so `j` is not the one that has just gone.
        have hne : j ≠ k ++ [name] := by
          rintro rfl
          have hgone : (t.erase (base ++ (k ++ [name]))).find? (base ++ (k ++ [name])) = none := by
            rw [find?_erase_below hk, if_pos rfl]
          obtain hsame | ⟨hnone, -⟩ := (herased.removeEmpty_below stop bound k).2 (k ++ [name])
          · rw [hsame, hgone] at hstays
            cases hstays
          · rw [hnone] at hstays
            cases hstays
        have hj' : j <+: k := (List.prefix_concat_iff.mp hj).resolve_left hne
        have hbound' : k.length ≤ stop.length + bound := by
          rw [List.length_append, List.length_singleton] at hbound
          omega
        obtain ⟨j', hfar, hoff, hfind⟩ := ih herased hdir' hbound' hj' hstays
        rw [find?_erase_below hk] at hfind
        split at hfind
        · exact absurd rfl hfind
        · exact ⟨j', hfar, fun hpre => (List.prefix_concat_iff.mp hpre).elim ‹_› hoff, hfind⟩

end Layered
end ObjectGateway.FileTree
