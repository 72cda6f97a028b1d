import PlcMonitor.Configuration.Device
import PlcMonitor.Device.Backoff
import PlcMonitor.Device.Health

/-! Links: a device's one connection, used by one operation at a time. An operation connects if
need be, and tries again after a pause when an attempt fails. -/
namespace PlcMonitor

structure Link (τ : Type) where
  settings : DeviceSettings
  wire : τ
  health : Health := {}
  clock : Nat := 0
  /-- The health that others saw when they first got their turn during an operation. -/
  glimpse : Option Health := none

namespace Link
variable {τ α : Type}

def limitMs (link : Link τ) : Nat := link.settings.timeoutMs.toNat

def name (link : Link τ) : String := link.settings.name

def wait (link : Link τ) (ms : Nat) : Link τ := { link with clock := link.clock + ms }

/-- Others get their turn here. -/
def pause (link : Link τ) (pauses : Bool) : Link τ :=
  if pauses && link.glimpse.isNone then { link with glimpse := some link.health } else link

def seenHealth (link : Link τ) : Health := link.glimpse.getD link.health

def markOk (link : Link τ) : Link τ := { link with health := link.health.markOk link.clock }

def markError (link : Link τ) (fault : DeviceFault) : Link τ :=
  { link with health := link.health.markError fault link.clock }

def close (wires : Transport τ) (link : Link τ) : Link τ :=
  { link with wire := wires.close link.wire }

def connect (wires : Transport τ) (link : Link τ) : Except DeviceFault Unit × Link τ :=
  if wires.isOpen link.wire then (.ok (), link)
  else
    let exchange := wires.connect link.wire
    let link := link.pause exchange.pauses
    match exchange.within link.limitMs with
    | (.ok (), wire, ms) =>
      (.ok (), { link.wait ms with wire, health := { link.health with connected := true } })
    | (.error cause, wire, ms) =>
      (.error (.connect link.name cause), close wires { link.wait ms with wire })

/-- One connection, if none is open, and one call. -/
def attempt (wires : Transport τ) (call : τ → Exchange τ α) (link : Link τ) :
    Except DeviceFault α × Link τ :=
  match connect wires link with
  | (.error fault, link) => (.error fault, link)
  | (.ok (), link) =>
    let exchange := call link.wire
    let link := link.pause exchange.pauses
    match exchange.within link.limitMs with
    | (.ok answer, wire, ms) => (.ok answer, { link.wait ms with wire })
    | (.error cause, wire, ms) => (.error (.request link.name cause), { link.wait ms with wire })

def attempts (wires : Transport τ) (call : τ → Exchange τ α) :
    (more number : Nat) → Link τ → Except DeviceFault α × Link τ
  | more, number, link =>
    match attempt wires call link with
    | (.ok answer, link) => (.ok answer, link.markOk)
    | (.error fault, link) =>
      let link := close wires (link.markError fault)
      match more with
      | 0 => (.error fault, link)
      | more + 1 =>
        let pause := Backoff.delay link.settings.backoffMs link.settings.maxBackoffMs
          number.toUInt32
        attempts wires call more (number + 1) ((link.pause (0 < pause)).wait pause.toNat)

def mostAttempts : Nat := UInt32.size - 1

def execute (wires : Transport τ) (call : τ → Exchange τ α) (link : Link τ) :
    Except DeviceFault α × Link τ :=
  attempts wires call (min (link.settings.retries.toNat + 1) mostAttempts - 1) 0 link

def ensureConnected (wires : Transport τ) (link : Link τ) : Bool × Link τ :=
  match connect wires link with
  | (.ok (), link) => (true, link)
  | (.error fault, link) => (false, link.markError fault)

def shutdown (wires : Transport τ) (link : Link τ) : Link τ :=
  let link := close wires link
  { link with health := { link.health with connected := false } }

def readWords (wires : Transport τ) (address count : UInt16) (link : Link τ) :
    Except DeviceFault (List UInt16) × Link τ :=
  execute wires (wires.readExactly link.settings.unit address count) link

def readWord (wires : Transport τ) (address : UInt16) (link : Link τ) :
    Except DeviceFault UInt16 × Link τ :=
  match readWords wires address 1 link with
  | (.ok (word :: _), link) => (.ok word, link)
  | (.ok [], link) => (.error (.noWord link.name), link)
  | (.error fault, link) => (.error fault, link)

def writeWord (wires : Transport τ) (address value : UInt16) (link : Link τ) :
    Except DeviceFault Unit × Link τ :=
  execute wires (wires.write link.settings.unit address value) link

end Link
end PlcMonitor
