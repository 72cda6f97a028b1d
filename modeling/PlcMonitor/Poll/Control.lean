/-! The flag and the wake-up that start and stop a polling loop, and the steps of a loop over
them. Each step looks at the flag or the wake-up once, so that the steps of several loops may
alternate. -/
namespace PlcMonitor

structure PollControl where
  running : Bool := false
  /-- A wake-up that no loop has taken yet. -/
  wake : Bool := false
deriving DecidableEq, Repr

inductive LoopPhase where
  /-- About to claim the flag. -/
  | entering
  /-- About to look at the flag before waiting. -/
  | checking
  /-- Until the next tick or a wake-up. -/
  | waiting
  /-- About to look at the flag before a cycle. -/
  | woken
  | polling
  | refused
  | finished
deriving DecidableEq, Repr

namespace LoopPhase

/-- One step of a loop: nothing for one that waits or has ended. -/
def step : LoopPhase → PollControl → Option (LoopPhase × PollControl)
  | .entering, control =>
    some (if control.running then .refused else .checking, { control with running := true })
  | .checking, control => some (if control.running then .waiting else .finished, control)
  | .woken, control => some (if control.running then .polling else .finished, control)
  | .polling, control => some (.checking, control)
  | .waiting, _ | .refused, _ | .finished, _ => none

def tick : LoopPhase → Option LoopPhase
  | .waiting => some .woken
  | _ => none

def takeWake : LoopPhase → PollControl → Option (LoopPhase × PollControl)
  | .waiting, control => if control.wake then some (.woken, { control with wake := false }) else none
  | _, _ => none

/-- Past the claim and not yet back. -/
def isInside : LoopPhase → Bool
  | .checking | .waiting | .woken | .polling => true
  | .entering | .refused | .finished => false

end LoopPhase

namespace PollControl

def clearRunning (control : PollControl) : PollControl := { control with running := false }

def leaveWake (control : PollControl) : PollControl := { control with wake := true }

def stop (control : PollControl) : PollControl := control.clearRunning.leaveWake

end PollControl
end PlcMonitor
