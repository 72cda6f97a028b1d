import PlcMonitor.Device.Operation

/-! Fleets: the links of all devices, by name. Operations on different devices do not wait for
each other. -/
namespace PlcMonitor

structure Fleet (τ : Type) where
  links : Table String (Link τ) := Table.empty
  /-- Milliseconds that have passed. -/
  clock : Nat := 0

structure DuplicateDevice where
  name : String
deriving DecidableEq, Repr

def DuplicateDevice.message (fault : DuplicateDevice) : String :=
  s!"Configuration error: Duplicate device name: {fault.name}"

namespace Fleet
variable {τ α : Type}

def add (wire : DeviceSettings → τ) (fleet : Fleet τ) :
    List DeviceSettings → Except DuplicateDevice (Fleet τ)
  | [] => .ok fleet
  | settings :: rest =>
    if fleet.links.contains settings.name then .error ⟨settings.name⟩
    else
      let link : Link τ := { settings, wire := wire settings }
      add wire { fleet with links := fleet.links.insert settings.name link } rest

def ofDevices (wire : DeviceSettings → τ) (devices : List DeviceSettings) :
    Except DuplicateDevice (Fleet τ) :=
  add wire {} devices

def names (fleet : Fleet τ) : List String := fleet.links.entries.map (·.1)

def health (fleet : Fleet τ) (device : String) : Option Health :=
  (fleet.links.get? device).map (·.health)

def healthOfAll (fleet : Fleet τ) : List (String × Health) :=
  fleet.links.entries.map fun (name, link) => (name, link.health)

/-- The link of a device used from `now` on; what its clock shows in the end. -/
def useLink (fleet : Fleet τ) (device : String) (now : Nat)
    (action : Link τ → Except DeviceFault α × Link τ) :
    Except DeviceFault α × Nat × Fleet τ :=
  match fleet.links.get? device with
  | none => (.error (.unknown device), now, fleet)
  | some link =>
    let (outcome, link) := action { link with clock := now }
    (outcome, link.clock, { fleet with links := fleet.links.insert device link })

def performAt (wires : Transport τ) (fleet : Fleet τ) (device : String) (operation : Operation)
    (now : Nat) : Except DeviceFault operation.Answer × Nat × Fleet τ :=
  match operation.check with
  | .error cause => (.error (.argument cause), now, fleet)
  | .ok () => fleet.useLink device now (operation.perform wires)

def perform (wires : Transport τ) (fleet : Fleet τ) (device : String) (operation : Operation) :
    Except DeviceFault operation.Answer × Fleet τ :=
  let (outcome, now, fleet) := fleet.performAt wires device operation fleet.clock
  (outcome, { fleet with clock := now })

def ensureConnectedAt (wires : Transport τ) (fleet : Fleet τ) (device : String) (now : Nat) :
    Bool × Nat × Fleet τ :=
  match fleet.links.get? device with
  | none => (false, now, fleet)
  | some link =>
    let (connected, link) := Link.ensureConnected wires { link with clock := now }
    (connected, link.clock, { fleet with links := fleet.links.insert device link })

def ensureConnected (wires : Transport τ) (fleet : Fleet τ) (device : String) :
    Bool × Fleet τ :=
  let (connected, now, fleet) := fleet.ensureConnectedAt wires device fleet.clock
  (connected, { fleet with clock := now })

def shutdown (wires : Transport τ) (fleet : Fleet τ) : Fleet τ :=
  { fleet with
    links := ⟨fleet.links.entries.map fun (name, link) => (name, link.shutdown wires)⟩ }

def mapWires (fleet : Fleet τ) (change : String → τ → τ) : Fleet τ :=
  { fleet with
    links := ⟨fleet.links.entries.map fun (name, link) =>
      (name, { link with wire := change name link.wire })⟩ }

inductive Task where
  | perform (operation : Operation)
  | ensureConnected
  | health
  | healthOfAll
  | names
  | shutdown
deriving DecidableEq, Repr

inductive TaskAnswer where
  | performed (operation : Operation) (outcome : Except DeviceFault operation.Answer)
  | connected (isOpen : Bool)
  | health (health : Option Health)
  | healthOfAll (healths : List (String × Health))
  | names (names : List String)
  | done

/-- A task begun when its turn comes, and when it has ended. One that only looks does so at once,
and sees what the operations begun before it have done until they first pause. -/
def runTask (wires : Transport τ) (fleet : Fleet τ) (device : String) (task : Task) (now : Nat) :
    TaskAnswer × Nat × Fleet τ :=
  match task with
  | .perform operation =>
    let (outcome, now, fleet) := fleet.performAt wires device operation now
    (.performed operation outcome, now, fleet)
  | .ensureConnected =>
    let (connected, now, fleet) := fleet.ensureConnectedAt wires device now
    (.connected connected, now, fleet)
  | .health => (.health ((fleet.links.get? device).map (·.seenHealth)), now, fleet)
  | .healthOfAll =>
    (.healthOfAll (fleet.links.entries.map fun (name, link) => (name, link.seenHealth)), now, fleet)
  | .names => (.names fleet.names, now, fleet)
  | .shutdown => (.done, now, fleet.shutdown wires)

/-- Tasks begun at once: those of one device take their turns in the order of the list, each from
when the one before it has ended. `free` says when a device is next free, if it has been used. -/
def runTasks (wires : Transport τ) (start : Nat) (free : Table String Nat) (fleet : Fleet τ) :
    List (String × Task) → List TaskAnswer × Fleet τ
  | [] => ([], fleet)
  | (device, task) :: rest =>
    let (answer, now, fleet) := fleet.runTask wires device task ((free.get? device).getD start)
    let (answers, fleet) := runTasks wires start (free.insert device now)
      { fleet with clock := max fleet.clock now } rest
    (answer :: answers, fleet)

def withoutGlimpses (fleet : Fleet τ) : Fleet τ :=
  { fleet with
    links := ⟨fleet.links.entries.map fun (name, link) => (name, { link with glimpse := none })⟩ }

def concurrently (wires : Transport τ) (fleet : Fleet τ) (tasks : List (String × Task)) :
    List TaskAnswer × Fleet τ :=
  fleet.withoutGlimpses.runTasks wires fleet.clock Table.empty tasks

end Fleet
end PlcMonitor
