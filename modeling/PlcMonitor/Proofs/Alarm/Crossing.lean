import PlcMonitor.Alarm.Evaluation
import PlcMonitor.Proofs.Decimal.Order

/-! How the state that a rule gives moves with the value. Only transitivity of the order is used, so
any limits may be missing, out of order or not numbers. -/
namespace PlcMonitor

namespace Limits

/-- Tests that hold only where those of one of two others do lead to no graver state. -/
theorem rank_grade_le_max {alarm alarm₁ alarm₂ warning warning₁ warning₂ : Bool}
    (alarms : alarm = true → alarm₁ = true ∨ alarm₂ = true)
    (warns : warning = true → warning₁ = true ∨ warning₂ = true) :
    (grade alarm warning).rank ≤ max (grade alarm₁ warning₁).rank (grade alarm₂ warning₂).rank := by
  revert alarm alarm₁ alarm₂ warning warning₁ warning₂
  decide

section Tests
variable {α : Type} (limits : Limits α)

theorem rank_classifyThreshold_le {crosses crosses' : α → Bool}
    (more : ∀ threshold, crosses threshold = true → crosses' threshold = true) :
    (limits.classifyThreshold crosses).toState.rank ≤
      (limits.classifyThreshold crosses').toState.rank := by
  unfold classifyThreshold
  cases limits.alarm with
  | none => exact Nat.le_refl _
  | some alarm =>
    have warns : (limits.warningEnabled && limits.warning.any crosses) = true →
        (limits.warningEnabled && limits.warning.any crosses') = true := by
      cases limits.warning with
      | none => exact id
      | some warning => simpa using fun enabled crossed => ⟨enabled, more warning crossed⟩
    refine (rank_grade_le_max (fun h => .inl (more alarm h)) ?_).trans_eq (max_self _)
    exact fun h => .inl (warns h)

theorem rank_classifyRange_le_max {inBand inBand₁ inBand₂ : α → α → Bool}
    (either : ∀ low high, inBand low high = true →
      inBand₁ low high = true ∨ inBand₂ low high = true) :
    (limits.classifyRange inBand).toState.rank ≤
      max (limits.classifyRange inBand₁).toState.rank (limits.classifyRange inBand₂).toState.rank := by
  unfold classifyRange
  cases limits.alarmLow with
  | none => exact Nat.zero_le _
  | some low =>
    cases limits.alarmHigh with
    | none => exact Nat.zero_le _
    | some high =>
      refine rank_grade_le_max (either low high) ?_
      cases limits.warningEnabled with
      | false => exact nofun
      | true =>
        cases limits.warningLow with
        | none => exact nofun
        | some low =>
          cases limits.warningHigh with
          | none => exact nofun
          | some high => exact either low high

end Tests

section Order
variable {α : Type} [LE α] [DecidableLE α] [IsTrans α LE.le] (limits : Limits α) {v v₁ v₂ : α}

theorem rank_classify_above_le (le : v₁ ≤ v₂) :
    (limits.classify .above v₁).toState.rank ≤ (limits.classify .above v₂).toState.rank := by
  refine limits.rank_classifyThreshold_le fun threshold crossed => ?_
  exact decide_eq_true (IsTrans.trans _ _ _ (of_decide_eq_true crossed) le)

theorem rank_classify_below_le (le : v₁ ≤ v₂) :
    (limits.classify .below v₂).toState.rank ≤ (limits.classify .below v₁).toState.rank := by
  refine limits.rank_classifyThreshold_le fun threshold crossed => ?_
  exact decide_eq_true (IsTrans.trans _ _ _ le (of_decide_eq_true crossed))

theorem inside_of_between (le₁ : v₁ ≤ v) (le₂ : v ≤ v₂) {low high : α}
    (inside₁ : inside v₁ low high = true) (inside₂ : inside v₂ low high = true) :
    inside v low high = true := by
  simp only [inside, Bool.and_eq_true, decide_eq_true_eq] at *
  exact ⟨IsTrans.trans _ _ _ inside₁.1 le₁, IsTrans.trans _ _ _ le₂ inside₂.2⟩

theorem rank_classify_outsideRange_le_max (le₁ : v₁ ≤ v) (le₂ : v ≤ v₂) :
    (limits.classify .outsideRange v).toState.rank ≤
      max (limits.classify .outsideRange v₁).toState.rank
        (limits.classify .outsideRange v₂).toState.rank := by
  refine limits.rank_classifyRange_le_max fun low high outside => ?_
  by_contra both
  simp only [Bool.not_eq_true', not_or, Bool.not_eq_false] at both outside
  rw [inside_of_between le₁ le₂ both.1 both.2] at outside
  cases outside

end Order
end Limits

/-- A higher value never lowers the state of an upper threshold nor raises that of a lower one, and
between two values a rule that guards a range finds nothing graver than at one of them. Values that
compare at all are numbers. -/
theorem AlarmRule.evaluateLimits_graded (rule : AlarmRule) :
    (rule.comparison = .above → ∀ {v₁ v₂ : Float}, v₁ ≤ v₂ →
      (rule.evaluateLimits v₁).state.rank ≤ (rule.evaluateLimits v₂).state.rank) ∧
    (rule.comparison = .below → ∀ {v₁ v₂ : Float}, v₁ ≤ v₂ →
      (rule.evaluateLimits v₂).state.rank ≤ (rule.evaluateLimits v₁).state.rank) ∧
    (rule.comparison = .outsideRange → ∀ {v₁ v v₂ : Float}, v₁ ≤ v → v ≤ v₂ →
      (rule.evaluateLimits v).state.rank ≤
        max (rule.evaluateLimits v₁).state.rank (rule.evaluateLimits v₂).state.rank) := by
  unfold evaluateLimits
  refine ⟨fun above v₁ v₂ le => ?_, fun below v₁ v₂ le => ?_, fun outside v₁ v v₂ le₁ le₂ => ?_⟩
  · rw [above]
    exact rule.limits.rank_classify_above_le le
  · rw [below]
    exact rule.limits.rank_classify_below_le le
  · rw [outside]
    exact rule.limits.rank_classify_outsideRange_le_max le₁ le₂

/-- Both ranges of this rule are the wrong way round, and the upper warning is not a number. -/
def muddledRule : AlarmRule where
  id := "pressure"
  name := "Pressure"
  tag := "line/pressure"
  comparison := .outsideRange
  limits := {
    warningEnabled := true, warningLow := some 4.0, warningHigh := some (0.0 / 0.0)
    alarmLow := some 6.0, alarmHigh := some 1.0 }

theorem muddledRule_graded :
    muddledRule.comparison = .outsideRange ∧ (-0.0 : Float) ≤ 3.5 ∧ (3.5 : Float) ≤ 1.0 / 0.0 ∧
      (muddledRule.evaluateLimits 3.5).state.rank ≤
        max (muddledRule.evaluateLimits (-0.0)).state.rank
          (muddledRule.evaluateLimits (1.0 / 0.0)).state.rank :=
  ⟨rfl, by decide, by decide,
    muddledRule.evaluateLimits_graded.2.2 rfl (by decide) (by decide)⟩

end PlcMonitor
