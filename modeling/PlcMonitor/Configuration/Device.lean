import PlcMonitor.Alarm.Rule
import PlcMonitor.Tag.Spec

/-! Devices as configuration describes them: how to reach one, its tags and its alarm rules. -/
namespace PlcMonitor

structure DeviceSettings where
  name : String
  host : String
  port : UInt16 := 502
  unit : UInt8 := 1
  /-- Bound on each connection attempt and each request. -/
  timeoutMs : UInt64 := 3000
  /-- Attempts behind the first. -/
  retries : UInt32 := 2
  backoffMs : UInt64 := 200
  maxBackoffMs : UInt64 := 2000
  tags : TagTree := TagTree.empty
  rules : List AlarmRule := []

namespace DeviceSettings

inductive Refusal where
  | tags (fault : TagTree.Malformed)
  | time (fault : UnreadableTime)

def Refusal.message : Refusal → String
  | .tags fault => s!"Configuration error: {fault.message}"
  | .time fault => fault.message

abbrev Unreadable := Fault Refusal

def textField (name : String) : Field Refusal String := ⟨name, Reader.text, none⟩

def portField : Field Refusal UInt16 := ⟨"port", Reader.uint16, some 502⟩

def unitField : Field Refusal UInt8 := ⟨"unit_id", Reader.uint8, some 1⟩

def timeoutField : Field Refusal UInt64 := ⟨"timeout_ms", Reader.uint64, some 3000⟩

def retriesField : Field Refusal UInt32 := ⟨"retries", Reader.uint32, some 2⟩

def backoffField : Field Refusal UInt64 := ⟨"backoff_ms", Reader.uint64, some 200⟩

def maxBackoffField : Field Refusal UInt64 := ⟨"max_backoff_ms", Reader.uint64, some 2000⟩

def tagsField : Field Refusal TagTree :=
  ⟨"tags", TagTree.ofNode.mapRefusal .tags, some TagTree.empty⟩

def rulesField : Field Refusal (List AlarmRule) :=
  ⟨"alarm_rules", Reader.list (AlarmRule.ofNode.mapRefusal .time), some []⟩

def probes : List (Probe Refusal) :=
  [(textField "name").probe, (textField "host").probe, portField.probe, unitField.probe,
   timeoutField.probe, retriesField.probe, backoffField.probe, maxBackoffField.probe,
   tagsField.probe, rulesField.probe]

def ofNode : Reader Refusal DeviceSettings := fun node => do
  let record ← Record.ofNode probes node
  return {
    name := ← record.get (textField "name")
    host := ← record.get (textField "host")
    port := ← record.get portField
    unit := ← record.get unitField
    timeoutMs := ← record.get timeoutField
    retries := ← record.get retriesField
    backoffMs := ← record.get backoffField
    maxBackoffMs := ← record.get maxBackoffField
    tags := ← record.get tagsField
    rules := ← record.get rulesField }

inductive Invalid where
  | blankName
  | blankHost
  | tags (fault : TagFault)
  | duplicateRule (id : String)
  | unknownTag (id tag : String)

def Invalid.message (device : String) : Invalid → String
  | .blankName => "Device name cannot be empty"
  | .blankHost => s!"Device '{device}' has an empty host"
  | .tags fault => s!"Device '{device}': Configuration error: {fault.message}"
  | .duplicateRule id => s!"Device '{device}': duplicate alarm rule id '{id}'"
  | .unknownTag id tag => s!"Device '{device}': alarm rule '{id}' references unknown tag '{tag}'"

def Invalid.isFatal : Invalid → Bool
  | .tags fault => fault.isFatal
  | _ => false

/-- Rules have ids of their own and watch tags that exist. `seen` are the ids before. -/
def validateRules (keys : List String) : List String → List AlarmRule → Except Invalid Unit
  | _, [] => .ok ()
  | seen, rule :: rest =>
    if rule.id ∈ seen then .error (.duplicateRule rule.id)
    else if rule.tag ∉ keys then .error (.unknownTag rule.id rule.tag)
    else validateRules keys (rule.id :: seen) rest

def validate (device : DeviceSettings) : Except Invalid Unit :=
  if Text.allBlank device.name then .error .blankName
  else if Text.allBlank device.host then .error .blankHost
  else match device.tags.flatten with
    | .error fault => .error (.tags fault)
    | .ok tags => validateRules (tags.map (·.key)) [] device.rules

def toDocument (device : DeviceSettings) : Except TagFault Document := do
  let tags ← device.tags.flatten
  return .record [("name", .text device.name), ("host", .text device.host),
    ("port", .int device.port.toNat), ("unit_id", .int device.unit.toNat),
    ("timeout_ms", .int device.timeoutMs.toNat), ("retries", .int device.retries.toNat),
    ("backoff_ms", .int device.backoffMs.toNat),
    ("max_backoff_ms", .int device.maxBackoffMs.toNat),
    ("tags", .list (tags.map (·.toDocument))),
    ("alarm_rules", .list (device.rules.map (·.toDocument)))]

end DeviceSettings
end PlcMonitor
