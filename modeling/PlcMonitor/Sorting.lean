/-! Sorting by insertion. Items that are equal in the order keep the order they came in. -/
namespace PlcMonitor.Sorting
variable {α : Type}

def insertSorted (le : α → α → Bool) (a : α) : List α → List α
  | [] => [a]
  | b :: rest => if le a b then a :: b :: rest else b :: insertSorted le a rest

def sort (le : α → α → Bool) (items : List α) : List α := items.foldr (insertSorted le) []

theorem insertSorted_perm (le : α → α → Bool) (a : α) (items : List α) :
    (insertSorted le a items).Perm (a :: items) := by
  induction items with
  | nil => exact .refl _
  | cons b rest ih =>
    unfold insertSorted
    split
    · exact .refl _
    · exact (ih.cons b).trans (.swap a b rest)

theorem sort_perm (le : α → α → Bool) (items : List α) : (sort le items).Perm items := by
  induction items with
  | nil => exact .refl _
  | cons a rest ih => exact (insertSorted_perm le a _).trans (ih.cons a)

@[simp] theorem mem_sort {le : α → α → Bool} {items : List α} {a : α} :
    a ∈ sort le items ↔ a ∈ items :=
  (sort_perm le items).mem_iff

end PlcMonitor.Sorting
