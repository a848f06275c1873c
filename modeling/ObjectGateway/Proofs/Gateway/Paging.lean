import Mathlib.Data.UInt
import ObjectGateway.Gateway.Listing
/-!
# Paging through a listing

Whoever asks for one page after another, each where the one before it ended, gets every
item once and in order, whatever the sizes of the pages. Sizes are words of 64 bits, and
no page that can be asked for takes them beyond that.
-/
namespace ObjectGateway.Listing

variable {α : Type}

-- ---------------------------------------------------------------------------
-- One page
-- ---------------------------------------------------------------------------

/-- A page is what is behind its offset, cut to its size, and it is the last one when there
was less than that. -/
theorem page_eq (items : List α) (offset max : Nat) :
    page items offset max = ((items.drop offset).take max,
      decide (items.length ≤ offset ∨ items.length - offset < max)) := by
  unfold page
  by_cases hpast : items.length ≤ offset
  · simp [hpast, List.drop_of_length_le hpast]
  · have hshort : ((items.drop offset).take max).length < max ↔
        items.length ≤ offset ∨ items.length - offset < max := by
      rw [List.length_take, List.length_drop]
      omega
    simp only [if_neg hpast, hshort]

/-- A page that is not the last one is as long as asked for and ends within the listing. -/
theorem page_full {items taken : List α} {offset max : Nat}
    (h : page items offset max = (taken, false)) :
    taken = (items.drop offset).take max ∧ taken.length = max ∧
      offset + max ≤ items.length := by
  rw [page_eq, Prod.mk.injEq, decide_eq_false_iff_not] at h
  obtain ⟨rfl, hlast⟩ := h
  refine ⟨rfl, ?_, by omega⟩
  rw [List.length_take, List.length_drop]
  omega

/-- The last page of a listing is all that is behind its offset. -/
theorem page_last {items taken : List α} {offset max : Nat}
    (h : page items offset max = (taken, true)) : taken = items.drop offset := by
  rw [page_eq, Prod.mk.injEq, decide_eq_true_eq] at h
  obtain ⟨rfl, hlast⟩ := h
  refine List.take_of_length_le ?_
  rw [List.length_drop]
  omega

-- ---------------------------------------------------------------------------
-- Sizes that are words
-- ---------------------------------------------------------------------------

/-- The sum of two sizes, or the largest size there is when the sum is larger. -/
def cappedSum (a b : UInt64) : UInt64 :=
  if UInt64.size ≤ a.toNat + b.toNat then -1 else a + b

/-- The items from one index up to another; none when these are not indices of the list or
not in order. -/
def between? (items : List α) (start stop : Nat) : Option (List α) :=
  if start ≤ stop ∧ stop ≤ items.length then some ((items.drop start).take (stop - start))
  else none

/-- A page, computed with words for sizes; none when it asks for items that are not there. -/
def wordPage (items : List α) (offset max : UInt64) : Option (List α × Bool) :=
  let length := UInt64.ofNat items.length
  if length ≤ offset then some ([], true)
  else do
    let stop := min (cappedSum offset max) length
    let taken ← between? items offset.toNat stop.toNat
    return (taken, UInt64.ofNat taken.length < max)

theorem toNat_cappedSum (a b : UInt64) :
    (cappedSum a b).toNat = min (a.toNat + b.toNat) (UInt64.size - 1) := by
  unfold cappedSum
  split
  · rename_i hlarge
    have hlast : (-1 : UInt64).toNat = UInt64.size - 1 := by decide
    rw [hlast]
    omega
  · rename_i hsmall
    have hsum : a.toNat + b.toNat < UInt64.size := Nat.not_le.mp hsmall
    rw [UInt64.toNat_add, Nat.mod_eq_of_lt hsum]
    omega

/-- With words for sizes every page of a listing is there and is the same one, also when
offset and size together are more than a word holds. -/
theorem wordPage_eq {items : List α} (h : items.length < UInt64.size) (offset max : UInt64) :
    wordPage items offset max = some (page items offset.toNat max.toNat) := by
  have hlength : (UInt64.ofNat items.length).toNat = items.length :=
    UInt64.toNat_ofNat_of_lt' h
  unfold wordPage page
  by_cases hpast : items.length ≤ offset.toNat
  · have hword : UInt64.ofNat items.length ≤ offset := by
      rwa [UInt64.le_iff_toNat_le, hlength]
    simp [hpast, hword]
  · have hword : ¬UInt64.ofNat items.length ≤ offset := by
      rwa [UInt64.le_iff_toNat_le, hlength]
    have hstop : (min (cappedSum offset max) (UInt64.ofNat items.length)).toNat =
        min (offset.toNat + max.toNat) items.length := by
      rw [UInt64.toNat_min, toNat_cappedSum, hlength]
      omega
    have htaken : between? items offset.toNat (min (offset.toNat + max.toNat) items.length) =
        some ((items.drop offset.toNat).take max.toNat) := by
      rw [between?, if_pos (by omega), Option.some.injEq, List.take_eq_take_iff,
        List.length_drop]
      omega
    have hcount : ((items.drop offset.toNat).take max.toNat).length < UInt64.size := by
      rw [List.length_take, List.length_drop]
      omega
    have hless : (UInt64.ofNat ((items.drop offset.toNat).take max.toNat).length < max) =
        (((items.drop offset.toNat).take max.toNat).length < max.toNat) := by
      rw [UInt64.lt_iff_toNat_lt, UInt64.toNat_ofNat_of_lt' hcount]
    simp only [hword, if_false, hpast, hstop, htaken, Option.bind_eq_bind, Option.bind_some,
      hless]
    rfl

-- ---------------------------------------------------------------------------
-- Page after page
-- ---------------------------------------------------------------------------

/-- The pages that are read one after another, the next one from where all of them end,
until one says that it is the last; none when the first `bound` pages do not say so. -/
def readPages (items : List α) (size : Nat → Nat) (received : Nat) :
    Nat → Option (List (List α))
  | 0 => none
  | bound + 1 =>
    let (taken, last) := page items received (size 0)
    if last then some [taken]
    else (readPages items (fun i => size (i + 1)) (received + taken.length) bound).map (taken :: ·)

/-- The pages that reading on from some point of a listing gives. -/
structure Paged (items : List α) (size : Nat → Nat) (received : Nat)
    (pages : List (List α)) : Prop where
  read : ∀ bound, pages.length ≤ bound → readPages items size received bound = some pages
  few : pages.length ≤ items.length - received + 1
  all : pages.flatten = items.drop received
  full : ∀ i taken, pages[i]? = some taken → i + 1 < pages.length → taken.length = size i

variable {items taken : List α} {size : Nat → Nat} {received : Nat}

/-- Reading ends with the last page. -/
theorem Paged.last (h : page items received (size 0) = (taken, true)) :
    Paged items size received [taken] where
  read := by
    intro bound hbound
    cases bound with
    | zero => simp at hbound
    | succ bound => simp [readPages, h]
  few := by simp
  all := by simp [page_last h]
  full := by
    intro i _ _ hi
    simp at hi

/-- Behind a page that is not the last one, reading goes on with what is left. -/
theorem Paged.cons (h : page items received (size 0) = (taken, false)) (hsize : 1 ≤ size 0)
    {pages : List (List α)}
    (hrest : Paged items (fun i => size (i + 1)) (received + taken.length) pages) :
    Paged items size received (taken :: pages) := by
  obtain ⟨htaken, hfull, hend⟩ := page_full h
  refine ⟨?_, ?_, ?_, ?_⟩
  · intro bound hbound
    cases bound with
    | zero => simp at hbound
    | succ bound => simp [readPages, h, hrest.read bound (by simpa using hbound)]
  · have hfew := hrest.few
    rw [List.length_cons]
    omega
  · calc (taken :: pages).flatten
        = taken ++ items.drop (received + size 0) := by
          rw [List.flatten_cons, hrest.all, hfull]
      _ = (items.drop received).take (size 0) ++ (items.drop received).drop (size 0) := by
          rw [List.drop_drop, ← htaken]
      _ = items.drop received := List.take_append_drop _ _
  · intro i page hpage hi
    cases i with
    | zero =>
      rw [List.getElem?_cons_zero, Option.some.injEq] at hpage
      rw [← hpage, hfull]
    | succ i => exact hrest.full i page hpage (by simpa using hi)

/-- Reading on from anywhere in a listing ends. -/
theorem exists_paged (items : List α) (size : Nat → Nat) (hsize : ∀ i, 1 ≤ size i)
    (received : Nat) : ∃ pages, Paged items size received pages := by
  -- A page that is not the last one leaves less to read.
  induction hleft : items.length - received using Nat.strongRecOn generalizing size received with
  | ind left ih =>
    cases hpage : page items received (size 0) with
    | mk taken last =>
    cases last with
    | true => exact ⟨[taken], .last hpage⟩
    | false =>
      obtain ⟨-, hfull, hend⟩ := page_full hpage
      have hpositive := hsize 0
      obtain ⟨pages, hpages⟩ := ih _ (by omega) (fun i => size (i + 1)) (fun i => hsize (i + 1))
        (received + taken.length) rfl
      exact ⟨taken :: pages, .cons hpage hpositive hpages⟩

/-- Reading a listing page after page ends after at most one call more than it has items, and
gives each of them once and in order, in pages that are as long as asked for up to the last
one. A page is the last one when less is left than it asks for, and none is too large to be
asked for. -/
theorem paging_complete (items : List α) :
    (∀ size : Nat → Nat, (∀ i, 1 ≤ size i) → ∃ pages,
      readPages items size 0 (items.length + 1) = some pages ∧
      pages.length ≤ items.length + 1 ∧
      pages.flatten = items ∧
      ∀ i taken, pages[i]? = some taken → i + 1 < pages.length → taken.length = size i) ∧
    (∀ offset max, (page items offset max).2 = true ↔
      items.length ≤ offset ∨ items.length - offset < max) ∧
    (items.length < UInt64.size → ∀ offset max : UInt64,
      wordPage items offset max = some (page items offset.toNat max.toNat)) := by
  refine ⟨?_, ?_, wordPage_eq⟩
  · intro size hsize
    obtain ⟨pages, hpages⟩ := exists_paged items size hsize 0
    exact ⟨pages, hpages.read _ hpages.few, hpages.few, hpages.all, hpages.full⟩
  · intro offset max
    rw [page_eq, decide_eq_true_eq]

/-- Three items are read by a page of one, a page of two and an empty one that says that
nothing is left, and a page of any size is there. -/
theorem paging_complete_fitting : (∀ i, 1 ≤ i + 1) ∧ [1, 2, 3].length < UInt64.size ∧
    (∃ pages, readPages [1, 2, 3] (fun i => i + 1) 0 4 = some pages ∧
      pages.flatten = [1, 2, 3] ∧ pages = [[1], [2, 3], []]) ∧
    wordPage [1, 2, 3] 2 (-1) = some ([3], true) := by
  have hsize : ∀ i, 1 ≤ i + 1 := Nat.le_add_left 1
  have hfits : [1, 2, 3].length < UInt64.size := by decide
  obtain ⟨hread, -, hword⟩ := paging_complete [1, 2, 3]
  refine ⟨hsize, hfits, ?_, hword hfits 2 (-1)⟩
  obtain ⟨pages, hpages, -, hall, -⟩ := hread _ hsize
  exact ⟨pages, hpages, hall, (Option.some.inj hpages).symm⟩

end ObjectGateway.Listing
