import PlcMonitor.Proofs.Device.Uses
import PlcMonitor.Proofs.Device.Series

/-! Fleets seen through a function of their wires. What is done with a fleet on one transport is
seen as the same thing done on the other; so a record of all calls can be kept beside any use. -/
namespace PlcMonitor
variable {τ υ α : Type}

namespace Table
variable {κ β : Type} [DecidableEq κ] [LT κ] [DecidableLT κ]

end Table

namespace Fleet

def map (f : τ → υ) (fleet : Fleet τ) : Fleet υ where
  links := ⟨fleet.links.entries.map fun (name, link) => (name, link.map f)⟩
  clock := fleet.clock

section Projection
variable {f : τ → υ} {wires : Transport τ} {onto : Transport υ} (h : wires.Projects f onto)
  (fleet : Fleet τ)
include h

end Projection

/-- The wires are changed in the same way while a record is kept. -/
def Use.recorded : Use τ → Use (Recorded τ)
  | .perform device operation => .perform device operation
  | .ensureConnected device => .ensureConnected device
  | .concurrently tasks => .concurrently tasks
  | .shutdown => .shutdown
  | .mapWires change =>
    .mapWires fun name recorded => { recorded with wire := change name recorded.wire }
  | .wait ms => .wait ms

def recorded (fleet : Fleet τ) : Fleet (Recorded τ) := fleet.map fun wire => { wire }

def calls (wires : Transport τ) (fleet : Fleet τ) (uses : List (Use τ)) (device : String) :
    List WireEvent :=
  match (fleet.recorded.useAll wires.recorded (uses.map Use.recorded)).links.get? device with
  | some link => link.wire.log
  | none => []

end Fleet
end PlcMonitor
