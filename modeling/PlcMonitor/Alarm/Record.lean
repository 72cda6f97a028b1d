import PlcMonitor.Alarm.Occurrence

/-! Occurrences and events as documents, written and read. -/
namespace PlcMonitor

structure UnreadableInstant where
  text : String
deriving DecidableEq, Repr

namespace AlarmRecord

def natural (name : String) : Field UnreadableInstant Nat := ⟨name, Reader.below UInt64.size, none⟩

def text (name : String) : Field UnreadableInstant String := ⟨name, Reader.text, none⟩

def textOption (name : String) : Field UnreadableInstant (Option String) :=
  ⟨name, Reader.optional Reader.text, some none⟩

def flag (name : String) : Field UnreadableInstant Bool := ⟨name, Reader.bool, none⟩

def floatOption (name : String) : Field UnreadableInstant (Option Float) :=
  ⟨name, Reader.optional Reader.float, some none⟩

def readState : Reader UnreadableInstant AlarmState := fun node =>
  return AlarmState.ofName (← Reader.text node)

def severityField : Field UnreadableInstant Severity := ⟨"severity", Severity.ofNode, none⟩

def readInstant : Reader UnreadableInstant Instant := fun node => do
  let raw ← Reader.text node
  match Instant.parse? raw with
  | some instant => return instant
  | none => throw (.refused ⟨raw⟩)

def instant (name : String) : Field UnreadableInstant Instant := ⟨name, readInstant, none⟩

def instantOption (name : String) : Field UnreadableInstant (Option Instant) :=
  ⟨name, Reader.optional readInstant, some none⟩

def readNotes : Reader UnreadableInstant (Table String String) := fun node =>
  return Table.ofList (← Reader.pairs Reader.text Reader.text node)

end AlarmRecord

open AlarmRecord

namespace Occurrence

def stateField : Field UnreadableInstant AlarmState := ⟨"state", readState, none⟩

def notesField : Field UnreadableInstant (Table String String) := ⟨"meta", readNotes, none⟩

def probes : List (Probe UnreadableInstant) :=
  [(natural "id").probe, (text "source").probe, (text "key").probe, (textOption "rule_id").probe,
   (textOption "tag").probe, stateField.probe, (flag "is_active").probe, severityField.probe,
   (text "message").probe, (floatOption "value").probe, (floatOption "warning_threshold").probe,
   (floatOption "alarm_threshold").probe, (instant "first_seen_at").probe,
   (instant "last_seen_at").probe, (instantOption "cleared_at").probe,
   (flag "acknowledged").probe, (instantOption "acknowledged_at").probe,
   (textOption "acknowledged_by").probe, notesField.probe, (natural "version").probe]

def ofNode : Reader UnreadableInstant Occurrence := fun node => do
  let record ← Record.ofNode probes node
  return {
    id := ← record.get (natural "id")
    source := ← record.get (text "source")
    key := ← record.get (text "key")
    rule := ← record.get (textOption "rule_id")
    tag := ← record.get (textOption "tag")
    state := ← record.get stateField
    isActive := ← record.get (flag "is_active")
    severity := ← record.get severityField
    message := ← record.get (text "message")
    value := ← record.get (floatOption "value")
    warningThreshold := ← record.get (floatOption "warning_threshold")
    alarmThreshold := ← record.get (floatOption "alarm_threshold")
    firstSeenAt := ← record.get (instant "first_seen_at")
    lastSeenAt := ← record.get (instant "last_seen_at")
    clearedAt := ← record.get (instantOption "cleared_at")
    acknowledged := ← record.get (flag "acknowledged")
    acknowledgedAt := ← record.get (instantOption "acknowledged_at")
    acknowledgedBy := ← record.get (textOption "acknowledged_by")
    notes := ← record.get notesField
    version := ← record.get (natural "version") }

def toDocument (row : Occurrence) : Document :=
  let time (t : Instant) := Document.text t.write
  .record [("id", .int row.id), ("source", .text row.source), ("key", .text row.key),
    ("rule_id", Document.optional .text row.rule), ("tag", Document.optional .text row.tag),
    ("state", .text row.state.name), ("is_active", .bool row.isActive),
    ("severity", .text row.severity.name), ("message", .text row.message),
    ("value", Document.optional .float row.value),
    ("warning_threshold", Document.optional .float row.warningThreshold),
    ("alarm_threshold", Document.optional .float row.alarmThreshold),
    ("first_seen_at", time row.firstSeenAt), ("last_seen_at", time row.lastSeenAt),
    ("cleared_at", Document.optional time row.clearedAt),
    ("acknowledged", .bool row.acknowledged),
    ("acknowledged_at", Document.optional time row.acknowledgedAt),
    ("acknowledged_by", Document.optional .text row.acknowledgedBy),
    ("meta", .record (row.notes.entries.map fun (key, note) => (key, .text note))),
    ("version", .int row.version)]

end Occurrence

namespace AlarmEvent

def previousField : Field UnreadableInstant (Option AlarmState) :=
  ⟨"prev_state", Reader.optional readState, some none⟩

def stateField : Field UnreadableInstant AlarmState := ⟨"new_state", readState, none⟩

def probes : List (Probe UnreadableInstant) :=
  [(natural "id").probe, (natural "occurrence_id").probe, (text "source").probe,
   (text "key").probe, (instant "timestamp").probe, previousField.probe, stateField.probe,
   severityField.probe, (floatOption "value").probe, (text "message").probe]

def ofNode : Reader UnreadableInstant AlarmEvent := fun node => do
  let record ← Record.ofNode probes node
  return {
    id := ← record.get (natural "id")
    occurrence := ← record.get (natural "occurrence_id")
    source := ← record.get (text "source")
    key := ← record.get (text "key")
    timestamp := ← record.get (instant "timestamp")
    previous := ← record.get previousField
    state := ← record.get stateField
    severity := ← record.get severityField
    value := ← record.get (floatOption "value")
    message := ← record.get (text "message") }

def toDocument (event : AlarmEvent) : Document :=
  .record [("id", .int event.id), ("occurrence_id", .int event.occurrence),
    ("source", .text event.source), ("key", .text event.key),
    ("timestamp", .text event.timestamp.write),
    ("prev_state", Document.optional (fun state => .text state.name) event.previous),
    ("new_state", .text event.state.name), ("severity", .text event.severity.name),
    ("value", Document.optional .float event.value), ("message", .text event.message)]

end AlarmEvent
end PlcMonitor
