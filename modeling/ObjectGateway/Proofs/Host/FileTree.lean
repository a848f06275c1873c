import Mathlib.Tactic.Common
import ObjectGateway.Host.FileTree
/-!
# What stands where

Every change of a file tree is described by `find?` before and after. A walk from
the root leads to a node exactly when directories alone stand on the way.
-/
namespace ObjectGateway

namespace Location

theorem within_iff {outer inner : Location} : outer.within inner = true ↔ outer <+: inner := by
  induction outer generalizing inner with
  | nil => simp [within]
  | cons a outer ih =>
    cases inner with
    | nil => simp [within]
    | cons b inner => simp [within, ih, List.cons_prefix_cons]

end Location

namespace FileTree

variable {t : FileTree} {l l' : Location} {node : Node}

/-! ## The view of a changed tree -/

@[simp] theorem find?_root (t : FileTree) : t.find? [] = some .dir := by
  simp [find?]

/-- A node that is found is listed, unless it is the root. -/
theorem mem_nodes_of_find? (hl : l ≠ []) (h : t.find? l = some node) : (l, node) ∈ t.nodes := by
  rw [find?, if_neg hl, Option.map_eq_some_iff] at h
  obtain ⟨⟨l', node'⟩, hfind, rfl⟩ := h
  have hkey : l' = l := by simpa using List.find?_some hfind
  exact hkey ▸ List.mem_of_find?_eq_some hfind

/-- Something is found wherever a node is listed. -/
theorem find?_ne_none_of_mem (h : (l, node) ∈ t.nodes) : t.find? l ≠ none := by
  by_cases hl : l = []
  · simp [hl]
  · rw [find?, if_neg hl, Ne, Option.map_eq_none_iff, List.find?_eq_none]
    intro hnone
    simpa using hnone _ h

theorem find?_set (hl : l ≠ []) (l' : Location) :
    (t.set l node).find? l' = if l' = l then some node else t.find? l' := by
  -- The root is found in every tree, whatever is listed.
  by_cases hroot : l' = []
  · simp [hroot, hl.symm]
  · simp only [find?, set, if_neg hroot, List.find?_append, List.find?_filter]
    by_cases h : l' = l
    · subst h
      have hnone : (t.nodes.find? fun entry =>
          decide ((entry.1 != l') = true ∧ (entry.1 == l') = true)) = none := by
        simp
      rw [hnone, Option.none_or, if_pos rfl]
      simp
    · have hsame : (fun entry : Location × Node =>
          decide ((entry.1 != l) = true ∧ (entry.1 == l') = true)) =
          fun entry => entry.1 == l' := by
        funext entry
        by_cases he : entry.1 = l' <;> simp [he, h]
      have hlast : ([(l, node)].find? fun entry => entry.1 == l') = none := by
        simpa using Ne.symm h
      rw [hsame, hlast, Option.or_none, if_neg h]

theorem find?_erase (l' : Location) :
    (t.erase l).find? l' = if l' = l ∧ l' ≠ [] then none else t.find? l' := by
  by_cases hroot : l' = []
  · simp [hroot]
  · simp only [find?, erase, if_neg hroot, List.find?_filter]
    by_cases h : l' = l
    · subst h
      simp [hroot]
    · have hsame : (fun entry : Location × Node =>
          decide ((entry.1 != l) = true ∧ (entry.1 == l') = true)) =
          fun entry => entry.1 == l' := by
        funext entry
        by_cases he : entry.1 = l' <;> simp [he, h]
      rw [hsame, if_neg (fun hand => h hand.1)]

theorem find?_prune (hl : l ≠ []) (l' : Location) :
    (t.prune l).find? l' = if l.within l' then none else t.find? l' := by
  by_cases hroot : l' = []
  · have : l.within [] = false := by cases l <;> simp_all [Location.within]
    simp [hroot, this]
  · simp only [find?, prune, if_neg hroot, List.find?_filter]
    by_cases h : l.within l' = true
    · have hnone : (t.nodes.find? fun entry =>
          decide ((!l.within entry.1) = true ∧ (entry.1 == l') = true)) = none := by
        rw [List.find?_eq_none]
        intro entry _
        by_cases he : entry.1 = l' <;> simp [he, h]
      rw [hnone, if_pos h, Option.map_none]
    · have hsame : (fun entry : Location × Node =>
          decide ((!l.within entry.1) = true ∧ (entry.1 == l') = true)) =
          fun entry => entry.1 == l' := by
        funext entry
        by_cases he : entry.1 = l' <;> simp [he, h]
      rw [hsame, if_neg h]

theorem isOccupied_iff :
    t.isOccupied l = true ↔ ∃ l', l <+: l' ∧ l' ≠ l ∧ t.find? l' ≠ none := by
  rw [isOccupied, List.any_eq_true]
  constructor
  · rintro ⟨⟨l', node⟩, hmem, h⟩
    have hparts : l.within l' = true ∧ l' ≠ l := by simpa using h
    exact ⟨l', Location.within_iff.mp hparts.1, hparts.2, find?_ne_none_of_mem hmem⟩
  · rintro ⟨l', hwithin, hne, hfind⟩
    obtain ⟨node, hnode⟩ := Option.ne_none_iff_exists'.mp hfind
    have hroot : l' ≠ [] := by
      rintro rfl
      exact hne (List.prefix_nil.mp hwithin).symm
    refine ⟨(l', node), mem_nodes_of_find? hroot hnode, ?_⟩
    simp [Location.within_iff.mpr hwithin, hne]

/-! ## Walking down -/

/-- A walk goes on from the directory that its first part leads to. -/
theorem walk_append {here first rest : Location} (h : t.walk here first = .ok .dir) :
    t.walk here (first ++ rest) = t.walk (here ++ first) rest := by
  -- A walk that ends at a directory has met directories only.
  induction first generalizing here with
  | nil => simp
  | cons name first ih =>
    simp only [List.cons_append, walk] at h ⊢
    cases hfind : t.find? here with
    | none => simp [hfind] at h
    | some found =>
      cases found with
      | file _ => simp [hfind] at h
      | dir =>
        rw [hfind] at h
        simpa using ih h

/-- What a walk leads to is found at its end. -/
theorem find?_of_walk {here rest : Location} (h : t.walk here rest = .ok node) :
    t.find? (here ++ rest) = some node := by
  induction rest generalizing here with
  | nil =>
    cases hfind : t.find? here with
    | none => simp [walk, hfind] at h
    | some found => simpa [walk, hfind] using h
  | cons name rest ih =>
    cases hfind : t.find? here with
    | none => simp [walk, hfind] at h
    | some found =>
      cases found with
      | file _ => simp [walk, hfind] at h
      | dir =>
        have hrest : t.walk (here ++ [name]) rest = .ok node := by simpa [walk, hfind] using h
        simpa using ih hrest

theorem find?_of_lookup (h : t.lookup l = .ok node) : t.find? l = some node := by
  simpa using find?_of_walk h

/-- A walk through directories leads to what stands at its end. -/
theorem walk_of_dirs {here rest : Location}
    (h : ∀ k, k <+: rest → k ≠ rest → t.find? (here ++ k) = some .dir) :
    t.walk here rest = match t.find? (here ++ rest) with
      | some node => .ok node
      | none => .error .notFound := by
  induction rest generalizing here with
  | nil =>
    cases hfind : t.find? here <;> simp [walk, hfind]
  | cons name rest ih =>
    have hhere : t.find? here = some .dir := by
      simpa using h [] List.nil_prefix (List.cons_ne_nil _ _).symm
    have hrest : ∀ k, k <+: rest → k ≠ rest → t.find? (here ++ [name] ++ k) = some .dir := by
      intro k hk hne
      have := h (name :: k) (List.cons_prefix_cons.mpr ⟨rfl, hk⟩) (by simpa using hne)
      simpa using this
    simpa [walk, hhere] using ih hrest

/-- A walk that leads to a directory leads through directories. -/
theorem find?_of_walk_dir {here rest k : Location} (h : t.walk here rest = .ok .dir)
    (hk : k <+: rest) : t.find? (here ++ k) = some .dir := by
  induction rest generalizing here k with
  | nil =>
    rw [List.prefix_nil.mp hk]
    exact find?_of_walk h
  | cons name rest ih =>
    cases hfind : t.find? here with
    | none => simp [walk, hfind] at h
    | some found =>
      cases found with
      | file _ => simp [walk, hfind] at h
      | dir =>
        have hrest : t.walk (here ++ [name]) rest = .ok .dir := by simpa [walk, hfind] using h
        cases k with
        | nil => simpa using hfind
        | cons first k =>
          obtain ⟨rfl, hbelow⟩ := List.cons_prefix_cons.mp hk
          simpa using ih hrest hbelow

/-- A location leads to a directory when it and everything above it are directories. -/
theorem lookup_eq_dir_iff :
    t.lookup l = .ok .dir ↔ ∀ k, k <+: l → t.find? k = some .dir := by
  constructor
  · intro h k hk
    simpa using find?_of_walk_dir h hk
  · intro h
    have habove : ∀ k, k <+: l → k ≠ l → t.find? ([] ++ k) = some .dir := fun k hk _ => h k hk
    rw [lookup, walk_of_dirs habove, List.nil_append, h l (List.prefix_refl l)]

end FileTree
end ObjectGateway
