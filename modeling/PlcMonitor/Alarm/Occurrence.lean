import PlcMonitor.Alarm.State
import PlcMonitor.Digest.Sha256
import PlcMonitor.Table
import PlcMonitor.Time.Instant

/-! Occurrences of alarms, the events of their histories, and the observations that both come
from. -/
namespace PlcMonitor

/-- The one record of a source and key. -/
structure Occurrence where
  id : Nat
  source : String
  key : String
  rule : Option String
  tag : Option String
  state : AlarmState
  isActive : Bool
  severity : Severity
  message : String
  value : Option Float
  warningThreshold : Option Float
  alarmThreshold : Option Float
  firstSeenAt : Instant
  lastSeenAt : Instant
  clearedAt : Option Instant
  acknowledged : Bool
  acknowledgedAt : Option Instant
  acknowledgedBy : Option String
  notes : Table String String
  /-- Raised by the store with every write. -/
  version : Nat

structure AlarmEvent where
  id : Nat
  occurrence : Nat
  source : String
  key : String
  timestamp : Instant
  /-- Nothing for the event that an occurrence begins with. -/
  previous : Option AlarmState
  state : AlarmState
  severity : Severity
  value : Option Float
  message : String

structure Observation where
  source : String
  key : String
  state : AlarmState
  severity : Severity := Severity.default
  message : String := ""
  value : Option Float := none
  rule : Option String := none
  tag : Option String := none
  warningThreshold : Option Float := none
  alarmThreshold : Option Float := none
  notes : Table String String := Table.empty
  timestamp : Instant

def digestKey (source raw : String) : String :=
  Sha256.hex (source ++ "|" ++ raw).toUTF8.toList

namespace Observation

def sourceName (raw : String) : String :=
  let source := Text.trim raw
  if source = "" then "unknown" else source

def normalized (observation : Observation) : Observation :=
  let source := sourceName observation.source
  let key := Text.trim observation.key
  { observation with
    source
    key := if key = "" then digestKey source observation.message else key }

def toOccurrence (observation : Observation) : Occurrence where
  id := 0
  source := observation.source
  key := observation.key
  rule := observation.rule
  tag := observation.tag
  state := observation.state
  isActive := true
  severity := observation.severity
  message := observation.message
  value := observation.value
  warningThreshold := observation.warningThreshold
  alarmThreshold := observation.alarmThreshold
  firstSeenAt := observation.timestamp
  lastSeenAt := observation.timestamp
  clearedAt := none
  acknowledged := false
  acknowledgedAt := none
  acknowledgedBy := none
  notes := observation.notes
  version := 0

/-- The event that takes `occurrence` from `previous` to the state observed. The store numbers
it. -/
def event (observation : Observation) (occurrence : Occurrence) (previous : Option AlarmState) :
    AlarmEvent where
  id := 0
  occurrence := occurrence.id
  source := occurrence.source
  key := occurrence.key
  timestamp := observation.timestamp
  previous
  state := observation.state
  severity := occurrence.severity
  value := observation.value
  message := if observation.message = "" then occurrence.message else observation.message

end Observation

namespace Occurrence

def refresh (occurrence : Occurrence) (seen : Observation) : Occurrence :=
  { occurrence with
    lastSeenAt := seen.timestamp
    value := seen.value
    severity := seen.severity
    warningThreshold := seen.warningThreshold
    alarmThreshold := seen.alarmThreshold
    message := if seen.message = "" then occurrence.message else seen.message
    rule := seen.rule <|> occurrence.rule
    tag := seen.tag <|> occurrence.tag
    notes := occurrence.notes.union seen.notes }

def changeState (occurrence : Occurrence) (seen : Observation) : Occurrence :=
  { occurrence with
    state := seen.state
    isActive := seen.state.isActive
    clearedAt := if seen.state.isActive then none else some seen.timestamp }

def observe (occurrence : Occurrence) (seen : Observation) : Occurrence × Option AlarmEvent :=
  let refreshed := occurrence.refresh seen
  if occurrence.state = seen.state then (refreshed, none)
  else
    let changed := refreshed.changeState seen
    (changed, some (seen.event changed (some occurrence.state)))

/-- An empty note is no note. -/
def acknowledge (occurrence : Occurrence) (now : Instant) (identity : String)
    (note : Option String) : Occurrence :=
  { occurrence with
    acknowledged := true
    acknowledgedAt := some now
    acknowledgedBy := some identity
    notes := match note.filter (· ≠ "") with
      | some text => occurrence.notes.insert "ack_note" text
      | none => occurrence.notes }

def newerFirst (a b : Occurrence) : Bool :=
  b.lastSeenAt.before a.lastSeenAt || (a.lastSeenAt = b.lastSeenAt && b.id ≤ a.id)

end Occurrence

end PlcMonitor
