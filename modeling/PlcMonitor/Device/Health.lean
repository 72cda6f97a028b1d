import PlcMonitor.Device.Fault
import PlcMonitor.Document.Basic

/-! What is known of a device's connection. -/
namespace PlcMonitor

/-- Times are those of the clock of the device's link. -/
structure Health where
  connected : Bool := false
  lastOkAt : Option Nat := none
  lastErrorAt : Option Nat := none
  lastError : Option DeviceFault := none
  consecutiveFailures : Nat := 0
deriving DecidableEq, Repr

namespace Health

def mostFailures : Nat := UInt32.size - 1

def markOk (health : Health) (now : Nat) : Health :=
  { health with
    connected := true
    lastOkAt := some now
    lastErrorAt := none
    lastError := none
    consecutiveFailures := 0 }

def markError (health : Health) (fault : DeviceFault) (now : Nat) : Health :=
  { health with
    connected := false
    lastErrorAt := some now
    lastError := some fault
    consecutiveFailures := min (health.consecutiveFailures + 1) mostFailures }

def toDocument (health : Health) : Document :=
  let time (t : Option Nat) := Document.optional (fun ms : Nat => .int ms) t
  .record [("connected", .bool health.connected), ("last_ok_at", time health.lastOkAt),
    ("last_error_at", time health.lastErrorAt),
    ("last_error", Document.optional (fun fault => .text fault.message) health.lastError),
    ("consecutive_failures", .int health.consecutiveFailures)]

end Health
end PlcMonitor
