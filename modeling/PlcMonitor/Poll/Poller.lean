import PlcMonitor.Device.Fleet
import PlcMonitor.Poll.Control
import PlcMonitor.Poll.Cycle

/-! Pollers: each polls one device, on links, a bus and an alarm store that all of them share. -/
namespace PlcMonitor

structure Poller where
  device : String
  plan : ScanPlan
  rules : List AlarmRule
  intervalMs : Nat
  control : PollControl := {}
  cycles : Nat := 0
  failedBlocks : Nat := 0
  alarmErrors : Nat := 0

structure Unplanned where
  device : String
  cause : PlanFault

def Unplanned.message (fault : Unplanned) : String :=
  s!"Configuration error: Device '{fault.device}': Configuration error: {fault.cause.message}"

/-- What pollers share: links over wires in `τ`, the bus and an alarm store in `σ`. -/
structure Plant (τ σ : Type) where
  fleet : Fleet τ
  bus : SignalBus := {}
  store : σ
  /-- How often an observation is recorded again after a conflict. -/
  retries : Nat := Lifecycle.defaultRetries
  announced : List AlarmEvent := []

namespace Plant
variable {τ σ α : Type}

def readBlock (wires : Transport τ) (device : String) (block : Span) (plant : Plant τ σ) :
    Except DeviceFault (List UInt16) × Plant τ σ :=
  let (outcome, fleet) := plant.fleet.perform wires device (.readBlock block.first block.count)
  (outcome, { plant with fleet })

def follow (alarms : AlarmStore σ) (script : Script α) (plant : Plant τ σ) : α × Plant τ σ :=
  let (result, store, events) := script.run alarms plant.store
  (result, { plant with store, announced := plant.announced ++ events })

def record (alarms : AlarmStore σ) (seen : Observation) (plant : Plant τ σ) :
    Except LifecycleFault Transition × Plant τ σ :=
  plant.follow alarms (Lifecycle.setState plant.retries seen)

end Plant

namespace Poller
variable {τ σ : Type}

def ofDevice (scan : ScanSettings) (settings : DeviceSettings) : Except Unplanned Poller :=
  match ScanPlan.build settings.tags scan with
  | .ok plan =>
    .ok { device := settings.name, plan, rules := settings.rules,
          intervalMs := scan.pollIntervalMs.toNat }
  | .error cause => .error ⟨settings.name, cause⟩

/-- One cycle, in which the time of day is taken once. -/
def poll (wires : Transport τ) (alarms : AlarmStore σ) (clocks : Clocks) (now : Instant)
    (poller : Poller) (plant : Plant τ σ) : CycleReport × Poller × Plant τ σ :=
  let (reads, plant) := Cycle.readBlocks (Plant.readBlock wires poller.device) poller.plan.blocks
    plant
  let readings := Cycle.decodeAll poller.plan reads
  let plant := { plant with bus := Cycle.publishAll poller.device plant.bus readings }
  let seen := Cycle.observations poller.device clocks now poller.rules (Cycle.numbers readings)
  let (recorded, plant) := Cycle.recordAll (Plant.record alarms) seen plant
  let report := Cycle.report reads readings recorded
  let poller := { poller with
    cycles := poller.cycles + 1
    failedBlocks := poller.failedBlocks + report.blocksFailed
    alarmErrors := poller.alarmErrors + recorded.countP (!·.isOk) }
  (report, poller, plant)

def stats (poller : Poller) : Document :=
  .record [("device", .text poller.device), ("running", .bool poller.control.running),
    ("cycles", .int poller.cycles), ("failed_blocks", .int poller.failedBlocks),
    ("alarm_errors", .int poller.alarmErrors), ("tag_count", .int poller.plan.tags.length),
    ("block_count", .int poller.plan.blocks.length)]

end Poller
end PlcMonitor
