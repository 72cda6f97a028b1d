import PlcMonitor.Alarm.Comparison
import PlcMonitor.Alarm.Schedule
import PlcMonitor.Alarm.State

/-! Alarm rules: which tag a rule watches, its limits and when it applies. -/
namespace PlcMonitor

structure Limits (α : Type) where
  warningEnabled : Bool := false
  warning : Option α := none
  alarm : Option α := none
  warningLow : Option α := none
  warningHigh : Option α := none
  alarmLow : Option α := none
  alarmHigh : Option α := none

structure AlarmRule where
  id : String
  name : String
  tag : String
  enabled : Bool := true
  severity : Severity := Severity.default
  comparison : Comparison := .above
  limits : Limits Float := {}
  schedule : Schedule := {}

namespace AlarmRule

abbrev Unreadable := Fault UnreadableTime

def textField (name : String) : Field UnreadableTime String := ⟨name, Reader.text, none⟩

def flagField (name : String) (default : Bool) : Field UnreadableTime Bool :=
  ⟨name, Reader.bool, some default⟩

def limitField (name : String) : Field UnreadableTime (Option Float) :=
  ⟨name, Reader.optional Reader.float, some none⟩

def severityField : Field UnreadableTime Severity :=
  ⟨"severity", Severity.ofNode, some Severity.default⟩

def comparisonField : Field UnreadableTime Comparison :=
  ⟨"comparison", fun node => return Comparison.ofName (← Reader.text node), some .above⟩

def scheduleField : Field UnreadableTime Schedule := ⟨"schedule", Schedule.ofNode, some {}⟩

def probes : List (Probe UnreadableTime) :=
  [(textField "id").probe, (textField "name").probe, (textField "tag").probe,
   (flagField "enabled" true).probe, severityField.probe, comparisonField.probe,
   (flagField "warning_enabled" false).probe, (limitField "warning_threshold").probe,
   (limitField "alarm_threshold").probe, (limitField "warning_low").probe,
   (limitField "warning_high").probe, (limitField "alarm_low").probe,
   (limitField "alarm_high").probe, scheduleField.probe]

def ofNode : Reader UnreadableTime AlarmRule := fun node => do
  let record ← Record.ofNode probes node
  return {
    id := ← record.get (textField "id")
    name := ← record.get (textField "name")
    tag := ← record.get (textField "tag")
    enabled := ← record.get (flagField "enabled" true)
    severity := ← record.get severityField
    comparison := ← record.get comparisonField
    limits := {
      warningEnabled := ← record.get (flagField "warning_enabled" false)
      warning := ← record.get (limitField "warning_threshold")
      alarm := ← record.get (limitField "alarm_threshold")
      warningLow := ← record.get (limitField "warning_low")
      warningHigh := ← record.get (limitField "warning_high")
      alarmLow := ← record.get (limitField "alarm_low")
      alarmHigh := ← record.get (limitField "alarm_high") }
    schedule := ← record.get scheduleField }

def toDocument (rule : AlarmRule) : Document :=
  let limit (x : Option Float) := Document.optional .float x
  .record [("id", .text rule.id), ("name", .text rule.name), ("tag", .text rule.tag),
    ("enabled", .bool rule.enabled), ("severity", .text rule.severity.name),
    ("comparison", .text rule.comparison.name),
    ("warning_enabled", .bool rule.limits.warningEnabled),
    ("warning_threshold", limit rule.limits.warning),
    ("alarm_threshold", limit rule.limits.alarm),
    ("warning_low", limit rule.limits.warningLow),
    ("warning_high", limit rule.limits.warningHigh),
    ("alarm_low", limit rule.limits.alarmLow),
    ("alarm_high", limit rule.limits.alarmHigh),
    ("schedule", rule.schedule.toDocument)]

end AlarmRule
end PlcMonitor
