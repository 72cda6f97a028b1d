import PlcMonitor.Alarm.Rule

/-! What a rule says of a value. Only comparisons of the value with the limits take part, so the
verdict is defined over any type of values that can be compared. -/
namespace PlcMonitor

inductive Verdict where
  | state (graded : AlarmState)
  | noThreshold
  | noRange
  | unsupported
deriving DecidableEq, Repr

def Verdict.toState : Verdict → AlarmState
  | .state graded => graded
  | _ => .ok

namespace Limits
variable {α : Type} [LE α] [DecidableLE α]

/-- The alarm test is made before the warning test. -/
def grade (alarm warning : Bool) : AlarmState :=
  if alarm then .alarm else if warning then .warning else .ok

def classifyThreshold (limits : Limits α) (crosses : α → Bool) : Verdict :=
  match limits.alarm with
  | none => .noThreshold
  | some alarm =>
    .state (grade (crosses alarm) (limits.warningEnabled && limits.warning.any crosses))

def inside (value low high : α) : Bool := low ≤ value && value ≤ high

def classifyRange (limits : Limits α) (inBand : α → α → Bool) : Verdict :=
  match limits.alarmLow, limits.alarmHigh with
  | some low, some high =>
    let warning := match limits.warningLow, limits.warningHigh with
      | some low, some high => inBand low high
      | _, _ => false
    .state (grade (inBand low high) (limits.warningEnabled && warning))
  | _, _ => .noRange

def classify (limits : Limits α) (comparison : Comparison) (value : α) : Verdict :=
  match comparison with
  | .above => limits.classifyThreshold fun threshold => threshold ≤ value
  | .below => limits.classifyThreshold fun threshold => value ≤ threshold
  | .outsideRange => limits.classifyRange fun low high => !inside value low high
  | .insideRange => limits.classifyRange fun low high => inside value low high
  | .unsupported _ => .unsupported

end Limits

structure Evaluation where
  state : AlarmState
  message : String
deriving DecidableEq, Repr

namespace AlarmRule

def explain (rule : AlarmRule) : Verdict → String
  | .state graded => s!"Rule {rule.name} -> {graded.name}"
  | .noThreshold => s!"Rule {rule.name}: no alarm threshold"
  | .noRange => s!"Rule {rule.name}: no alarm range"
  | .unsupported => s!"Rule {rule.name}: unsupported comparison"

def evaluateLimits (rule : AlarmRule) (value : Float) : Evaluation :=
  let verdict := rule.limits.classify rule.comparison value
  ⟨verdict.toState, rule.explain verdict⟩

def evaluate (clocks : Clocks) (rule : AlarmRule) (value : Float) (now : Instant) : Evaluation :=
  if rule.schedule.isActive clocks now then rule.evaluateLimits value
  else ⟨.ok, s!"Rule {rule.name} inactive (schedule) -> OK"⟩

end AlarmRule
end PlcMonitor
