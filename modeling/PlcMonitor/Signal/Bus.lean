import PlcMonitor.Reading.Value

/-! The latest reading of every tag of every device, under `device/tag`. -/
namespace PlcMonitor

structure SignalBus where
  signals : Table String Reading := Table.empty

inductive SignalFault where
  | absent (key : String)
  | notNumeric (key typeName : String)
deriving DecidableEq, Repr

def SignalFault.message : SignalFault → String
  | .absent key => s!"Not found: signal '{key}'"
  | .notNumeric key typeName =>
    s!"Configuration error: Signal '{key}' is {typeName} and has no numeric value"

namespace SignalBus

def key (device tag : String) : String := device ++ "/" ++ tag

def publish (bus : SignalBus) (device tag : String) (reading : Reading) : SignalBus :=
  ⟨bus.signals.insert (key device tag) reading⟩

def get? (bus : SignalBus) (key : String) : Option Reading := bus.signals.get? key

def value? (bus : SignalBus) (key : String) : Option Value := (bus.get? key).map (·.value)

def float (bus : SignalBus) (key : String) : Except SignalFault Float :=
  match bus.value? key with
  | none => .error (.absent key)
  | some value =>
    match value.asFloat with
    | some x => .ok x
    | none => .error (.notNumeric key value.typeName)

def exists? (bus : SignalBus) (key : String) : Bool := bus.signals.contains key

def names (bus : SignalBus) : List String := bus.signals.entries.map (·.1)

def size (bus : SignalBus) : Nat := bus.signals.entries.length

def behind? (head text : String) : Option String :=
  (head.toList.isPrefixOf? text.toList).map String.ofList

/-- Readings whose key begins with the device, by the rest of the key. -/
def readingsOf (bus : SignalBus) (device : String) : Table String Reading :=
  Table.ofList (bus.signals.entries.filterMap fun (name, reading) =>
    (behind? (device ++ "/") name).map fun tag => (tag, reading))

@[simp] theorem get?_publish_self (bus : SignalBus) (device tag : String) (reading : Reading) :
    (bus.publish device tag reading).get? (key device tag) = some reading :=
  Table.get?_insert_self ..

theorem get?_publish_of_ne (bus : SignalBus) {device tag other : String} (reading : Reading)
    (h : other ≠ key device tag) : (bus.publish device tag reading).get? other = bus.get? other :=
  Table.get?_insert_of_ne bus.signals reading h

end SignalBus
end PlcMonitor
