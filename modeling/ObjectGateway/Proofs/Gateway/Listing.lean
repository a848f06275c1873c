import Mathlib.Data.List.Induction
import Mathlib.Tactic.Common
import ObjectGateway.Gateway.Listing
/-!
# Listings show the first item of each name

Every name is shown once, by the first item that has it, and an item that is added at
the end is shown when its name is new.
-/
namespace ObjectGateway.Listing

variable {α β : Type} (name : α → String)

theorem distinctFrom_append (seen : List String) (items : List α) (x : α) :
    distinctFrom name seen (items ++ [x]) =
      if name x ∈ seen ∨ name x ∈ items.map name then distinctFrom name seen items
      else distinctFrom name seen items ++ [x] := by
  -- A name counts as taken when it was seen before or is among the items in front.
  induction items generalizing seen with
  | nil => by_cases h : name x ∈ seen <;> simp [distinctFrom, h]
  | cons first rest ih =>
    by_cases hfirst : name first ∈ seen
    · have hsame : (name x ∈ seen ∨ name x ∈ (first :: rest).map name) ↔
          (name x ∈ seen ∨ name x ∈ rest.map name) := by
        by_cases h : name x = name first <;> simp_all
      simp only [List.cons_append, distinctFrom, List.contains_iff_mem.mpr hfirst, if_true, ih,
        hsame]
    · have hsame : (name x ∈ name first :: seen ∨ name x ∈ rest.map name) ↔
          (name x ∈ seen ∨ name x ∈ (first :: rest).map name) := by
        simp only [List.mem_cons, List.map_cons]
        tauto
      have hseen : seen.contains (name first) = false := by simpa using hfirst
      simp only [List.cons_append, distinctFrom, hseen, Bool.false_eq_true, if_false, ih, hsame]
      split <;> rfl

/-- An item more is shown unless its name is taken. -/
theorem distinct_append (items : List α) (x : α) :
    distinct name (items ++ [x]) =
      if name x ∈ items.map name then distinct name items else distinct name items ++ [x] := by
  simpa [distinct] using distinctFrom_append name [] items x

theorem find?_distinctFrom (seen : List String) (items : List α) {n : String} (h : n ∉ seen) :
    (distinctFrom name seen items).find? (fun x => name x == n) =
      items.find? fun x => name x == n := by
  induction items generalizing seen with
  | nil => rfl
  | cons first rest ih =>
    by_cases hn : name first = n
    · simp [distinctFrom, hn, h]
    · by_cases hfirst : name first ∈ seen
      · simp [distinctFrom, hfirst, hn, ih seen h]
      · have hnext : n ∉ name first :: seen := by simp [h, Ne.symm hn]
        simp [distinctFrom, hfirst, hn, ih _ hnext]

/-- The first item of a name is the one that is shown. -/
theorem find?_distinct (items : List α) (n : String) :
    (distinct name items).find? (fun x => name x == n) = items.find? fun x => name x == n :=
  find?_distinctFrom name [] items List.not_mem_nil

theorem mem_map_distinctFrom (seen : List String) (items : List α) (n : String) :
    n ∈ (distinctFrom name seen items).map name ↔ n ∈ items.map name ∧ n ∉ seen := by
  induction items generalizing seen with
  | nil => simp [distinctFrom]
  | cons first rest ih =>
    by_cases hfirst : name first ∈ seen
    · have hskip : n ∉ seen → n ≠ name first := fun hn he => hn (he ▸ hfirst)
      simp only [distinctFrom, List.contains_iff_mem.mpr hfirst, if_true, ih, List.map_cons,
        List.mem_cons]
      tauto
    · have hseen : seen.contains (name first) = false := by simpa using hfirst
      simp only [distinctFrom, hseen, Bool.false_eq_true, if_false, List.map_cons, List.mem_cons, ih]
      by_cases hn : n = name first
      · simp [hn, hfirst]
      · simp [hn]

/-- Every name is shown. -/
theorem mem_map_distinct (items : List α) (n : String) :
    n ∈ (distinct name items).map name ↔ n ∈ items.map name := by
  simp [distinct, mem_map_distinctFrom]

/-- The items whose name is that of no item in front of their place. -/
def firsts (items : List α) : List α :=
  (items.zipIdx.filter fun (x, i) => name x ∉ (items.take i).map name).map Prod.fst

/-- With an item behind them the others are chosen as before. -/
theorem firsts_append (items : List α) (x : α) :
    firsts name (items ++ [x]) =
      if name x ∈ items.map name then firsts name items else firsts name items ++ [x] := by
  have hfront : ∀ p ∈ items.zipIdx, decide (name p.1 ∉ ((items ++ [x]).take p.2).map name) =
      decide (name p.1 ∉ (items.take p.2).map name) := by
    intro p hp
    have hplace : p.2 ≤ items.length := Nat.le_of_lt (List.snd_lt_of_mem_zipIdx hp)
    rw [List.take_append_of_le_length hplace]
  have hlast : (items ++ [x]).take (0 + items.length) = items := by
    rw [Nat.zero_add]
    exact List.take_left
  simp only [firsts, List.zipIdx_append, List.zipIdx_singleton, List.filter_append,
    List.map_append, List.filter_congr hfront, List.filter_cons, List.filter_nil, hlast]
  by_cases h : name x ∈ items.map name
  · simp [h]
  · simp [h]

/-- These are the items that are shown. -/
theorem distinct_eq_firsts (items : List α) : distinct name items = firsts name items := by
  induction items using List.reverseRecOn with
  | nil => rfl
  | append_singleton items x ih =>
    rw [distinct_append, firsts_append, ih]

theorem mem_distinctFrom_iff (seen : List String) (items : List α) (x : α) :
    x ∈ distinctFrom name seen items ↔
      name x ∉ seen ∧ items.find? (fun y => name y == name x) = some x := by
  induction items generalizing seen with
  | nil => simp [distinctFrom]
  | cons first rest ih =>
    by_cases hfirst : name first ∈ seen
    · have hskip : name x ∉ seen → name first ≠ name x := fun hx he => hx (he ▸ hfirst)
      rw [distinctFrom, if_pos (List.contains_iff_mem.mpr hfirst), ih]
      constructor
      · rintro ⟨hx, hfind⟩
        exact ⟨hx, by simpa [hskip hx] using hfind⟩
      · rintro ⟨hx, hfind⟩
        exact ⟨hx, by simpa [hskip hx] using hfind⟩
    · have hseen : ¬seen.contains (name first) = true := by simpa using hfirst
      rw [distinctFrom, if_neg hseen, List.mem_cons, ih]
      -- The first item of its name is shown, and it hides those that follow.
      by_cases hname : name first = name x
      · rw [hname] at hfirst
        simp [hname, hfirst, eq_comm]
      · have hne : x ≠ first := fun h => hname (h ▸ rfl)
        simp [hname, hne, Ne.symm hname]

/-- An item is shown when it is the first one of its name. -/
theorem mem_distinct_iff (items : List α) (x : α) :
    x ∈ distinct name items ↔ items.find? (fun y => name y == name x) = some x := by
  simp [distinct, mem_distinctFrom_iff]

theorem distinctFrom_map (f : β → α) (seen : List String) (items : List β) :
    distinctFrom name seen (items.map f) = (distinctFrom (name ∘ f) seen items).map f := by
  induction items generalizing seen with
  | nil => rfl
  | cons first rest ih => by_cases h : name (f first) ∈ seen <;> simp [distinctFrom, h, ih]

theorem distinct_map (f : β → α) (items : List β) :
    distinct name (items.map f) = (distinct (name ∘ f) items).map f :=
  distinctFrom_map name f [] items

/-- Of items that are related and have the same names, related ones are shown. -/
theorem distinctFrom_forall₂ {name : α → String} {name' : β → String} {R : α → β → Prop}
    (hname : ∀ x y, R x y → name x = name' y) (seen : List String) {items : List α}
    {items' : List β} (h : List.Forall₂ R items items') :
    List.Forall₂ R (distinctFrom name seen items) (distinctFrom name' seen items') := by
  induction h generalizing seen with
  | nil => exact .nil
  | cons hfirst _ ih =>
    simp only [distinctFrom, hname _ _ hfirst]
    split
    · exact ih seen
    · exact .cons hfirst (ih _)

end ObjectGateway.Listing
