import Mathlib.Data.List.Forall2
import Mathlib.Data.List.Nodup
/-!
# Lists

What is found first in a list, by its key or among fewer items; and two lists in step, place
by place.
-/
namespace ObjectGateway

section Lookups

variable {α β : Type} {p q : α → Bool} {x : α} {xs : List α}

/-- In a list without a key twice, each item is the first one of its key. -/
theorem find?_of_nodup_map [DecidableEq β] {key : α → β} (h : (xs.map key).Nodup)
    (hx : x ∈ xs) : xs.find? (fun y => key y == key x) = some x := by
  cases hfind : xs.find? fun y => key y == key x with
  | none =>
    have hnone := List.find?_eq_none.mp hfind x hx
    simp at hnone
  | some y =>
    have hy := List.mem_of_find?_eq_some hfind
    have hkey : key y = key x := by simpa using List.find?_some hfind
    rw [List.inj_on_of_nodup_map h hy hx hkey]

/-- What is found first is found first among fewer, if it is still there. -/
theorem find?_filter_of_find? (h : xs.find? q = some x) (hx : p x) :
    (xs.filter p).find? q = some x := by
  induction xs with
  | nil => cases h
  | cons y ys ih =>
    rw [List.find?_cons] at h
    split at h
    · cases h
      rw [List.filter_cons, if_pos hx, List.find?_cons]
      simp [*]
    · rw [List.filter_cons]
      split
      · simp [*]
      · exact ih h

end Lookups

section InStep

open List (Forall₂)

variable {α β : Type} {R : α → β → Prop} {l : List α} {l' : List β}

theorem forall₂_getElem? (h : Forall₂ R l l') (i : Nat) : Option.Rel R l[i]? l'[i]? := by
  induction h generalizing i with
  | nil => exact .none
  | cons hab _ ih =>
    cases i with
    | zero => exact .some hab
    | succ i => exact ih i

theorem forall₂_set (h : Forall₂ R l l') (i : Nat) {a : α} {b : β} (hab : R a b) :
    Forall₂ R (l.set i a) (l'.set i b) := by
  induction h generalizing i with
  | nil => exact .nil
  | cons hhead htail ih =>
    cases i with
    | zero => exact .cons hab htail
    | succ i => exact .cons hhead (ih i)

end InStep

end ObjectGateway
