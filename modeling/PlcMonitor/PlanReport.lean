import PlcMonitor.Configuration.Source
import PlcMonitor.Document.Json
import PlcMonitor.Scan.Plan

/-! The report of scan plans: for each device the tags with their registers and the block reads
that cover them. -/
namespace PlcMonitor

structure DevicePlan where
  device : DeviceSettings
  plan : ScanPlan

namespace DevicePlan

def toDocument (entry : DevicePlan) : Document :=
  .record [("device", .text entry.device.name), ("host", .text entry.device.host),
    ("port", .int entry.device.port.toNat), ("unit_id", .int entry.device.unit.toNat),
    ("tags", .list (entry.plan.tags.map (·.toDocument))),
    ("blocks", .list (entry.plan.blocks.map (·.toDocument)))]

end DevicePlan

namespace PlanReport

inductive Failure where
  | configuration (path : String) (cause : Configuration.Unusable)
  | plan (device : String) (cause : PlanFault)
  | unknownDevice (name : String)

def Failure.isFatal : Failure → Bool
  | .configuration _ cause => cause.isFatal
  | .plan _ cause => cause.isFatal
  | .unknownDevice _ => false

/-- Later lines of a text stand as deep as its first. -/
def indented (text : String) : String :=
  String.ofList (text.toList.flatMap fun c => if c = '\n' then "\n    ".toList else [c])

def withCause (context cause : String) : String :=
  s!"Error: {context}\n\nCaused by:\n    {indented cause}"

def Failure.message : Failure → String
  | .configuration path cause => withCause s!"loading configuration from {path}" cause.message
  | .plan device cause =>
    withCause s!"building scan plan for {device}" s!"Configuration error: {cause.message}"
  | .unknownDevice name => s!"Error: device '{name}' is not configured"

def planOf (scan : ScanSettings) (device : DeviceSettings) : Except Failure DevicePlan :=
  match ScanPlan.build device.tags scan with
  | .ok plan => .ok ⟨device, plan⟩
  | .error cause => .error (.plan device.name cause)

def isSelected (only : Option String) (device : DeviceSettings) : Bool :=
  only.all (· = device.name)

def plans (config : Configuration) (only : Option String) : Except Failure (List DevicePlan) := do
  let plans ← (config.devices.filter (isSelected only)).mapM (planOf config.scan)
  match only, plans with
  | some name, [] => .error (.unknownDevice name)
  | _, plans => .ok plans

def ofContent (path : String) (content : Configuration.Content) (only : Option String) :
    Except Failure (List DevicePlan) :=
  match Configuration.ofContent path content with
  | .ok config => plans config only
  | .error cause => .error (.configuration path cause)

def toDocument (plans : List DevicePlan) : Document := .list (plans.map (·.toDocument))

def usage : String := "Usage: regscan-plan <config.yaml> [device]"

structure Outcome where
  status : UInt8
  output : String := ""
  complaint : String := ""

def outcome : Except Failure (List DevicePlan) → Outcome
  | .ok plans => { status := 0, output := (toDocument plans).json 0 ++ "\n" }
  | .error failure =>
    { status := if failure.isFatal then 101 else 1, complaint := failure.message ++ "\n" }

end PlanReport
end PlcMonitor
