import Mathlib.Data.Prod.Lex
import Mathlib.Order.Defs.Unbundled

/-! Doubles compare as their places on one line do. What is not a number has no place there, so it
is neither below nor above anything, and the order is transitive but not reflexive. -/
namespace PlcMonitor.Decimal

open Float.Model (UnpackedFloat)

/-- The side of zero and whether it is infinite, then how large it is: exponent and mantissa. -/
abbrev Place := Int ×ₗ Int ×ₗ Int

def place? : UnpackedFloat → Option Place
  | .notANumber => none
  | .infinity .negative => some (toLex (-2, toLex (0, 0)))
  | .finite .negative mantissa exponent _ => some (toLex (-1, toLex (-exponent, -(mantissa : Int))))
  | .zero _ => some (toLex (0, toLex (0, 0)))
  | .finite .positive mantissa exponent _ => some (toLex (1, toLex (exponent, (mantissa : Int))))
  | .infinity .positive => some (toLex (2, toLex (0, 0)))

section Size
variable (exponent exponent' : Int) (mantissa mantissa' : Nat)

theorem isLE_size_iff :
    ((compare exponent exponent').then (compare mantissa mantissa')).isLE = true ↔
      exponent < exponent' ∨ exponent = exponent' ∧ mantissa ≤ mantissa' := by
  rw [Ordering.isLE_then_iff_or, Int.compare_eq_lt, Int.compare_eq_eq, Nat.isLE_compare]

theorem isLE_swap_size_iff :
    ((compare exponent exponent').then (compare mantissa mantissa')).swap.isLE = true ↔
      exponent' < exponent ∨ exponent' = exponent ∧ mantissa' ≤ mantissa := by
  rw [Ordering.swap_then, Int.compare_swap, Nat.compare_swap, isLE_size_iff]

end Size

theorem le_iff_place (a b : UnpackedFloat) :
    a.le b = true ↔ ∃ i ∈ place? a, ∃ j ∈ place? b, i ≤ j := by
  rcases a with (_ | _) | _ | (_ | _) | ⟨_ | _, mantissa, exponent, _⟩ <;>
    rcases b with (_ | _) | _ | (_ | _) | ⟨_ | _, mantissa', exponent', _⟩
  case finite.negative.finite.negative =>
    refine (isLE_swap_size_iff exponent exponent' mantissa mantissa').trans ?_
    dsimp only [place?]
    simp [Prod.Lex.toLex_le_toLex, eq_comm]
  case finite.positive.finite.positive =>
    refine (isLE_size_iff exponent exponent' mantissa mantissa').trans ?_
    dsimp only [place?]
    simp [Prod.Lex.toLex_le_toLex]
  all_goals
    dsimp only [UnpackedFloat.le, UnpackedFloat.compare, place?]
    simp [Prod.Lex.toLex_le_toLex, compare]

/-- The order of doubles is transitive, also through infinities and zeros of either sign. -/
instance isTrans_le : IsTrans Float LE.le where
  trans a b c below above := by
    obtain ⟨i, hi, j, hj, first⟩ := (le_iff_place _ _).mp (of_decide_eq_true below)
    obtain ⟨j', hj', k, hk, second⟩ := (le_iff_place _ _).mp (of_decide_eq_true above)
    obtain rfl := Option.mem_unique hj hj'
    exact decide_eq_true ((le_iff_place _ _).mpr ⟨i, hi, k, hk, first.trans second⟩)

end PlcMonitor.Decimal
