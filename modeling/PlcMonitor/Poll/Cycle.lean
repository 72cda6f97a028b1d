import PlcMonitor.Alarm.Evaluation
import PlcMonitor.Alarm.Lifecycle
import PlcMonitor.Device.Fault
import PlcMonitor.Scan.Plan
import PlcMonitor.Signal.Bus

/-! One polling cycle: every block of the plan is read once, what was read is decoded and
published, and the rules that have a number to look at are evaluated. -/
namespace PlcMonitor

structure CycleReport where
  blocksOk : Nat := 0
  blocksFailed : Nat := 0
  readings : Nat := 0
  evaluations : Nat := 0
  transitions : Nat := 0
deriving DecidableEq, Repr

def CycleReport.toDocument (report : CycleReport) : Document :=
  .record [("blocks_ok", .int report.blocksOk), ("blocks_failed", .int report.blocksFailed),
    ("readings", .int report.readings), ("evaluations", .int report.evaluations),
    ("transitions", .int report.transitions)]

structure BlockRead where
  block : Span
  outcome : Except DeviceFault (List UInt16)

def polledSource : String := "modbus"

namespace Cycle
variable {σ : Type}

/-- Blocks in order; one that fails does not stop the next. -/
def readBlocks (read : Span → σ → Except DeviceFault (List UInt16) × σ) :
    List Span → σ → List BlockRead × σ
  | [], state => ([], state)
  | block :: rest, state =>
    let (outcome, state) := read block state
    let (others, state) := readBlocks read rest state
    (⟨block, outcome⟩ :: others, state)

def decodeAll (plan : ScanPlan) (reads : List BlockRead) : List (TagSpec × Reading) :=
  reads.flatMap fun read =>
    match read.outcome with
    | .ok words => plan.decode read.block words
    | .error _ => []

def publishAll (device : String) (bus : SignalBus) (readings : List (TagSpec × Reading)) :
    SignalBus :=
  readings.foldl (fun bus (tag, reading) => bus.publish device tag.key reading) bus

/-- The last number read for each tag key. -/
def numbers (readings : List (TagSpec × Reading)) : Table String Float :=
  Table.ofList (readings.filterMap fun (tag, reading) =>
    reading.value.asFloat.map fun x => (tag.key, x))

def observation (device : String) (clocks : Clocks) (now : Instant) (rule : AlarmRule)
    (value : Float) : Observation :=
  let evaluation := rule.evaluate clocks value now
  { source := polledSource
    key := s!"{device}:{rule.id}"
    state := evaluation.state
    severity := rule.severity
    message := evaluation.message
    value := some value
    rule := some rule.id
    tag := some rule.tag
    warningThreshold := rule.limits.warning
    alarmThreshold := rule.limits.alarm
    notes := Table.ofList [("plc", device), ("comparison", rule.comparison.name)]
    timestamp := now }

/-- What the enabled rules see, in their order. One whose tag has no number sees nothing. -/
def observations (device : String) (clocks : Clocks) (now : Instant) (rules : List AlarmRule)
    (numbers : Table String Float) : List Observation :=
  (rules.filter (·.enabled)).filterMap fun rule =>
    (numbers.get? rule.tag).map (observation device clocks now rule)

def recordAll (record : Observation → σ → Except LifecycleFault Transition × σ) :
    List Observation → σ → List (Except LifecycleFault Transition) × σ
  | [], state => ([], state)
  | seen :: rest, state =>
    let (outcome, state) := record seen state
    let (others, state) := recordAll record rest state
    (outcome :: others, state)

def isTransition : Except LifecycleFault Transition → Bool
  | .ok transition => transition.event.isSome
  | .error _ => false

def report (reads : List BlockRead) (readings : List (TagSpec × Reading))
    (recorded : List (Except LifecycleFault Transition)) : CycleReport where
  blocksOk := reads.countP (·.outcome.isOk)
  blocksFailed := reads.countP (!·.outcome.isOk)
  readings := readings.length
  evaluations := recorded.countP (·.isOk)
  transitions := recorded.countP isTransition

end Cycle
end PlcMonitor
