import PlcMonitor.Document.Record
import PlcMonitor.Time.Instant

/-! Windows of the day outside which a rule is not evaluated. -/
namespace PlcMonitor

structure Schedule where
  enabled : Bool := false
  start : Option TimeOfDay := none
  finish : Option TimeOfDay := none
  timezone : Option String := none
deriving DecidableEq, Repr

structure UnreadableTime where
  text : String
deriving DecidableEq, Repr

def UnreadableTime.message (fault : UnreadableTime) : String :=
  s!"invalid time of day '{fault.text}'"

namespace Schedule

/-- A blank text is no time at all. -/
def readTime : Reader UnreadableTime (Option TimeOfDay) := fun node => do
  match ← Reader.optional Reader.text node with
  | none => return none
  | some raw =>
    let cs := Text.trimmed raw.toList
    if cs = [] then return none
    else match TimeOfDay.parse? cs with
      | some time => return some time
      | none => throw (.refused ⟨String.ofList cs⟩)

def enabledField : Field UnreadableTime Bool := ⟨"enabled", Reader.bool, some false⟩

def startField : Field UnreadableTime (Option TimeOfDay) := ⟨"start", readTime, some none⟩

def finishField : Field UnreadableTime (Option TimeOfDay) := ⟨"end", readTime, some none⟩

def timezoneField : Field UnreadableTime (Option String) :=
  ⟨"timezone", Reader.optional Reader.text, some none⟩

def ofNode : Reader UnreadableTime Schedule := fun node => do
  let record ← Record.ofNode
    [enabledField.probe, startField.probe, finishField.probe, timezoneField.probe] node
  return ⟨← record.get enabledField, ← record.get startField, ← record.get finishField,
    ← record.get timezoneField⟩

def toDocument (schedule : Schedule) : Document :=
  let time (t : Option TimeOfDay) := Document.optional (fun t => .text t.write) t
  .record [("enabled", .bool schedule.enabled), ("start", time schedule.start),
    ("end", time schedule.finish), ("timezone", Document.optional .text schedule.timezone)]

/-- A window that starts after it ends runs past midnight. -/
def covers (start finish now : TimeOfDay) : Bool :=
  if start.before finish then !now.before start && now.before finish
  else !now.before start || now.before finish

/-- A schedule that is disabled, lacks an end or is as long as the day is always active. -/
def isActiveAt (schedule : Schedule) (localTime : TimeOfDay) : Bool :=
  match schedule.enabled, schedule.start, schedule.finish with
  | true, some start, some finish => start = finish || covers start finish localTime
  | _, _, _ => true

def isActive (clocks : Clocks) (schedule : Schedule) (now : Instant) : Bool :=
  schedule.isActiveAt (clocks.localTime schedule.timezone now)

end Schedule
end PlcMonitor
