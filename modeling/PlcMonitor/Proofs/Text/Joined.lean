import Mathlib.Data.List.Basic

/-! Names joined by a separator. Two pairs of names may join to the same text when the separator
stands in one of them; a list of names is known by what stands between its separators. -/
namespace PlcMonitor

/-- `left` goes on behind `left'` with a separator and what `right'` has more than `right`, so that
both pairs join to the same. -/
def Reaches {α : Type} (separator : α) (left right left' right' : List α) : Prop :=
  ∃ between, left = left' ++ separator :: between ∧ right' = between ++ separator :: right

theorem append_cons_eq_iff {α : Type} {separator : α} {left right left' right' : List α} :
    left ++ separator :: right = left' ++ separator :: right' ↔
      (left = left' ∧ right = right') ∨ Reaches separator left right left' right' ∨
        Reaches separator left' right' left right := by
  constructor
  · intro same
    rcases List.append_eq_append_iff.mp same with ⟨more, rfl, rest⟩ | ⟨more, rfl, rest⟩
    all_goals
      cases more with
      | nil => simp_all
      | cons a between =>
        obtain ⟨rfl, rfl⟩ := List.cons.inj rest
        simp [Reaches]
  · rintro (⟨rfl, rfl⟩ | ⟨between, rfl, rfl⟩ | ⟨between, rfl, rfl⟩) <;> simp

theorem not_reaches_self {α : Type} {separator : α} {part right right' : List α} :
    ¬Reaches separator part right part right' := by
  rintro ⟨between, same, -⟩
  have := congrArg List.length same
  simp at this

section Segments
variable {α : Type} [BEq α] [LawfulBEq α] {separator : α} {parts others : List (List α)}

theorem splitOn_intercalate_flatMap (some : parts ≠ []) :
    ([separator].intercalate parts).splitOn separator =
      parts.flatMap fun part => part.splitOn separator := by
  induction parts with
  | nil => exact absurd rfl some
  | cons part rest ih =>
    by_cases alone : rest = []
    · simp [alone]
    · rw [List.intercalate_cons_of_ne_nil alone, List.append_assoc, List.singleton_append,
        List.splitOn_append_cons_self, ih alone, List.flatMap_cons]

/-- Joined lists are the same text just if the same stands between their separators. -/
theorem intercalate_eq_iff (some : parts ≠ []) (some' : others ≠ []) :
    [separator].intercalate parts = [separator].intercalate others ↔
      (parts.flatMap fun part => part.splitOn separator) =
        others.flatMap fun part => part.splitOn separator := by
  rw [← splitOn_intercalate_flatMap some, ← splitOn_intercalate_flatMap some']
  constructor
  · exact congrArg _
  · intro same
    have joined := congrArg [separator].intercalate same
    simpa only [List.intercalate_splitOn] using joined

end Segments
end PlcMonitor
