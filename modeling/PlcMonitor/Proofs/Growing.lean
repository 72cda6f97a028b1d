import Mathlib.Data.List.DropRight
import Mathlib.Data.List.Infix
import Mathlib.Data.List.TakeWhile

/-! Lists that grow at their ends: what holds at each step, and what lies between the first and the
last of the items that one looks for. -/
namespace PlcMonitor
variable {α : Type}

/-- What holds at each item that is added holds at those before the last and at the last. -/
theorem forall_concat_prefix_iff {P : List α → α → Prop} {items : List α} {item : α} :
    (∀ before next, before ++ [next] <+: items ++ [item] → P before next) ↔
      (∀ before next, before ++ [next] <+: items → P before next) ∧ P items item := by
  simp only [List.prefix_concat_iff]
  constructor
  · intro each
    exact ⟨fun before next begins => each before next (.inr begins), each items item (.inl rfl)⟩
  · rintro ⟨earlier, last⟩ before next (same | begins)
    · obtain ⟨rfl, rfl⟩ := List.append_singleton_inj.mp same
      exact last
    · exact earlier before next begins

def fromFirst (p : α → Bool) (items : List α) : List α := items.dropWhile fun item => !p item

def fromFirstToLast (p : α → Bool) (items : List α) : List α :=
  (fromFirst p items).rdropWhile fun item => !p item

section Concat
variable {p : α → Bool} {items : List α} {item : α}

theorem fromFirst_concat_cases (p : α → Bool) (items : List α) (item : α) :
    fromFirst p (items ++ [item]) = fromFirst p items ++ [item] ∨
    p item = false ∧ (∀ x ∈ items, p x = false) ∧ fromFirst p (items ++ [item]) = [] ∧
      fromFirst p items = [] := by
  induction items with
  | nil => cases h : p item <;> simp [fromFirst, h]
  | cons first rest ih =>
    cases h : p first with
    | true => exact .inl (by simp [fromFirst, h])
    | false => simpa [fromFirst, h] using ih

theorem fromFirst_concat (begun : ∃ x ∈ items, p x = true) :
    fromFirst p (items ++ [item]) = fromFirst p items ++ [item] := by
  obtain ⟨x, hx, hp⟩ := begun
  refine (fromFirst_concat_cases p items item).resolve_right fun ⟨_, absent, _⟩ => ?_
  simp [absent x hx] at hp

theorem fromFirst_prefix_concat : fromFirst p items <+: fromFirst p (items ++ [item]) := by
  rcases fromFirst_concat_cases p items item with grown | ⟨-, -, -, empty⟩
  · exact grown ▸ List.prefix_append _ _
  · exact empty ▸ List.nil_prefix

theorem fromFirstToLast_concat_of_pos (h : p item = true) :
    fromFirstToLast p (items ++ [item]) = fromFirst p items ++ [item] := by
  have grown := (fromFirst_concat_cases p items item).resolve_right fun ⟨other, _⟩ => by
    simp [h] at other
  rw [fromFirstToLast, grown]
  exact List.rdropWhile_concat_neg _ _ _ (by simp [h])

theorem fromFirstToLast_concat_of_neg (h : p item = false) :
    fromFirstToLast p (items ++ [item]) = fromFirstToLast p items := by
  unfold fromFirstToLast
  rcases fromFirst_concat_cases p items item with grown | ⟨-, -, now, before⟩
  · rw [grown]
    exact List.rdropWhile_concat_pos _ _ _ (by simp [h])
  · rw [now, before]

end Concat
end PlcMonitor
