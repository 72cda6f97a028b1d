import PlcMonitor.Configuration.Device
import PlcMonitor.Scan.Settings

/-! The whole configuration, and when it is accepted. -/
namespace PlcMonitor

structure Configuration where
  scan : ScanSettings := {}
  devices : List DeviceSettings

namespace Configuration

abbrev Refusal := DeviceSettings.Refusal

def scanField : Field Refusal ScanSettings := ⟨"scan", ScanSettings.ofNode, some {}⟩

def devicesField : Field Refusal (List DeviceSettings) :=
  ⟨"devices", Reader.list DeviceSettings.ofNode, none⟩

def ofNode : Reader Refusal Configuration := fun node => do
  let record ← Record.ofNode [scanField.probe, devicesField.probe] node
  return ⟨← record.get scanField, ← record.get devicesField⟩

inductive Invalid where
  | scan (reason : ScanSettings.Invalid)
  | noDevices
  | duplicateDevice (name : String)
  | device (name : String) (reason : DeviceSettings.Invalid)

def Invalid.message : Invalid → String
  | .scan reason => reason.message
  | .noDevices => "No devices configured"
  | .duplicateDevice name => s!"Duplicate device name: {name}"
  | .device name reason => reason.message name

def Invalid.isFatal : Invalid → Bool
  | .device _ reason => reason.isFatal
  | _ => false

/-- Devices have names of their own and are valid one by one. `seen` are the names before. -/
def validateDevices : List String → List DeviceSettings → Except Invalid Unit
  | _, [] => .ok ()
  | seen, device :: rest =>
    if device.name ∈ seen then .error (.duplicateDevice device.name)
    else match device.validate with
      | .error reason => .error (.device device.name reason)
      | .ok () => validateDevices (device.name :: seen) rest

def validate (config : Configuration) : Except Invalid Unit :=
  match config.scan.validate with
  | .error reason => .error (.scan reason)
  | .ok () =>
    match config.devices with
    | [] => .error .noDevices
    | devices => validateDevices [] devices

def device? (config : Configuration) (name : String) : Option DeviceSettings :=
  config.devices.find? (·.name = name)

end Configuration
end PlcMonitor
