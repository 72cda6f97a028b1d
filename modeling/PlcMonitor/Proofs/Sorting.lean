import Mathlib.Data.List.Dedup
import Mathlib.Data.List.Sort
import PlcMonitor.Sorting

/-! Sorting gives a list in order. Where no two items are equal in the order, sorted lists of the
same items are the same but for repetitions, and these lie side by side. -/
namespace PlcMonitor.Sorting
variable {α : Type} (le : α → α → Bool)

theorem insertSorted_eq_orderedInsert (a : α) (items : List α) :
    insertSorted le a items = items.orderedInsert (le · · = true) a := by
  induction items with
  | nil => rfl
  | cons b rest ih => rw [insertSorted, List.orderedInsert_cons, ih]

theorem sort_eq_insertionSort (items : List α) :
    sort le items = items.insertionSort (le · · = true) := by
  induction items with
  | nil => rfl
  | cons a rest ih =>
    rw [List.insertionSort_cons, ← ih, ← insertSorted_eq_orderedInsert]
    rfl

theorem pairwise_sort [Std.Total fun a b => le a b = true] [IsTrans α fun a b => le a b = true]
    (items : List α) : (sort le items).Pairwise (le · · = true) := by
  rw [sort_eq_insertionSort]
  exact List.pairwise_insertionSort _ items

/-- Where no two of the items are equal in the order, it does not matter how they come. -/
theorem sort_congr_of_perm [Std.Total fun a b => le a b = true]
    [IsTrans α fun a b => le a b = true] {items others : List α} (same : items.Perm others)
    (antisymm : ∀ a ∈ items, ∀ b ∈ items, le a b = true → le b a = true → a = b) :
    sort le items = sort le others := by
  refine List.Perm.eq_of_pairwise (fun a b ha hb => ?_) (pairwise_sort le items)
    (pairwise_sort le others) ((sort_perm le items).trans (same.trans (sort_perm le others).symm))
  exact antisymm a (mem_sort.mp ha) b (same.mem_iff.mpr (mem_sort.mp hb))

section Antisymm
variable [Std.Antisymm fun a b => le a b = true]

theorem dedup_sort_congr [DecidableEq α] [Std.Total fun a b => le a b = true]
    [IsTrans α fun a b => le a b = true] {items others : List α}
    (same : ∀ a, a ∈ items ↔ a ∈ others) : (sort le items).dedup = (sort le others).dedup := by
  have inOrder (items : List α) := (pairwise_sort le items).sublist (List.dedup_sublist _)
  refine List.Perm.eq_of_pairwise' (inOrder items) (inOrder others) ?_
  refine (List.perm_ext_iff_of_nodup (List.nodup_dedup _) (List.nodup_dedup _)).mpr fun a => ?_
  simp only [List.mem_dedup, mem_sort, same]

theorem next_of_repeated {le : α → α → Bool} [Std.Antisymm fun a b => le a b = true] {a : α}
    {rest : List α} (inOrder : (a :: rest).Pairwise (le · · = true)) (repeated : a ∈ rest) :
    ∃ later, rest = a :: later := by
  cases rest with
  | nil => cases repeated
  | cons b later =>
    obtain ⟨first, inOrder⟩ := List.pairwise_cons.mp inOrder
    rcases List.mem_cons.mp repeated with rfl | behind
    · exact ⟨later, rfl⟩
    · have below := (List.pairwise_cons.mp inOrder).1 a behind
      have above := first b List.mem_cons_self
      obtain rfl : b = a := antisymm (r := fun a b => le a b = true) below above
      exact ⟨later, rfl⟩

end Antisymm
end PlcMonitor.Sorting
