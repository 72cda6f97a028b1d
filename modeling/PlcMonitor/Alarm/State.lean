import PlcMonitor.Document.Record
import PlcMonitor.Text.Blank
import PlcMonitor.Text.Case

/-! States of alarms and how severe they are. -/
namespace PlcMonitor

inductive AlarmState where
  | ok
  | warning
  | alarm
deriving DecidableEq, Repr

namespace AlarmState

def name : AlarmState → String
  | .ok => "OK"
  | .warning => "WARNING"
  | .alarm => "ALARM"

def isActive (state : AlarmState) : Bool := state ≠ .ok

/-- A name that is not known reads as `ok`. -/
def ofName (raw : String) : AlarmState :=
  match Text.upper (Text.trim raw) with
  | "ALARM" => .alarm
  | "WARNING" => .warning
  | _ => .ok

@[simp] theorem ofName_name (state : AlarmState) : ofName state.name = state := by
  cases state <;> rfl

@[simp] theorem isActive_iff (state : AlarmState) : state.isActive = true ↔ state ≠ .ok := by
  simp [isActive]

def rank : AlarmState → Nat
  | .ok => 0
  | .warning => 1
  | .alarm => 2

end AlarmState

inductive Severity where
  | info
  | warning
  | critical
  | emergency
deriving DecidableEq, Repr

namespace Severity

def all : List Severity := [.info, .warning, .critical, .emergency]

def name : Severity → String
  | .info => "info"
  | .warning => "warning"
  | .critical => "critical"
  | .emergency => "emergency"

def rank : Severity → Nat
  | .info => 1
  | .warning => 2
  | .critical => 3
  | .emergency => 4

def default : Severity := .warning

def ofName? (name : String) : Option Severity := all.find? (·.name = name)

def ofNode {ε : Type} : Reader ε Severity := Reader.choice ofName? (all.map (·.name))

@[simp] theorem ofName?_name (severity : Severity) : ofName? severity.name = some severity := by
  cases severity <;> rfl

end Severity
end PlcMonitor
