import PlcMonitor.Poll.Poller

/-! The polling loop in time: a first cycle at once, then one per interval, until it is stopped
after a given time. -/
namespace PlcMonitor

structure AlreadyRunning where
  device : String
deriving DecidableEq, Repr

def AlreadyRunning.message (fault : AlreadyRunning) : String :=
  s!"Configuration error: Poller for '{fault.device}' is already running"

/-- Milliseconds by which a tick may be late without moving those after it. -/
def tickTolerance : Nat := 5

def nextTick (intervalMs due now : Nat) : Nat :=
  if due + tickTolerance < now then now + intervalMs else due + intervalMs

structure Watch (τ σ : Type) where
  poller : Poller
  plant : Plant τ σ
  phase : LoopPhase := .entering
  due : Nat
  stopAt : Option Nat

namespace Watch
variable {τ σ : Type}

def clock (watch : Watch τ σ) : Nat := watch.plant.fleet.clock

def sleepUntil (watch : Watch τ σ) (time : Nat) : Watch τ σ :=
  let fleet := { watch.plant.fleet with clock := max watch.clock time }
  { watch with plant := { watch.plant with fleet } }

def withControl (watch : Watch τ σ) (control : PollControl) : Watch τ σ :=
  { watch with poller := { watch.poller with control } }

def stop (watch : Watch τ σ) : Watch τ σ :=
  { watch.withControl watch.poller.control.stop with stopAt := none }

def stopIfDue (watch : Watch τ σ) : Watch τ σ :=
  if watch.stopAt.any (· ≤ watch.clock) then watch.stop else watch

def takePhase (watch : Watch τ σ) : LoopPhase × PollControl → Watch τ σ
  | (phase, control) => { watch.withControl control with phase }

def poll (wires : Transport τ) (alarms : AlarmStore σ) (clocks : Clocks) (now : Instant)
    (watch : Watch τ σ) : Watch τ σ :=
  let (_, poller, plant) := watch.poller.poll wires alarms clocks now watch.plant
  { watch with poller, plant }

def tick (watch : Watch τ σ) : Watch τ σ :=
  { watch with
    phase := watch.phase.tick.getD watch.phase
    due := nextTick watch.poller.intervalMs watch.due watch.clock }

/-- The end of a wait: by a wake-up, by the tick, or by a stop that comes no later than it. -/
def endWait (watch : Watch τ σ) : Watch τ σ :=
  match watch.phase.takeWake watch.poller.control with
  | some next => watch.takePhase next
  | none =>
    match watch.stopAt with
    | some time =>
      if time ≤ watch.due ∧ watch.clock < watch.due then (watch.sleepUntil time).stop
      else (watch.sleepUntil watch.due).tick
    | none => (watch.sleepUntil watch.due).tick

def advance (wires : Transport τ) (alarms : AlarmStore σ) (clocks : Clocks) (now : Instant)
    (watch : Watch τ σ) : Watch τ σ :=
  let watch := match watch.phase with
    | .polling => (watch.poll wires alarms clocks now).stopIfDue
    | .waiting => watch.endWait
    | _ => watch
  match watch.phase.step watch.poller.control with
  | some next => watch.takePhase next
  | none => watch

def runFor (wires : Transport τ) (alarms : AlarmStore σ) (clocks : Clocks) (now : Instant) :
    Nat → Watch τ σ → Watch τ σ
  | 0, watch => watch
  | fuel + 1, watch =>
    if watch.phase = .finished ∨ watch.phase = .refused then watch
    else runFor wires alarms clocks now fuel (watch.advance wires alarms clocks now)

/-- A loop started now and stopped `forMs` later. It makes at most four steps between two ticks. -/
def run (wires : Transport τ) (alarms : AlarmStore σ) (clocks : Clocks) (now : Instant)
    (forMs : Nat) (poller : Poller) (plant : Plant τ σ) : Poller × Plant τ σ :=
  let start := plant.fleet.clock
  let watch := runFor wires alarms clocks now (4 * forMs + 16)
    { poller, plant, due := start, stopAt := some (start + forMs) }
  (watch.poller, watch.plant)

end Watch
end PlcMonitor
