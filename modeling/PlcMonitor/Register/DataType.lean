import PlcMonitor.Text.Blank
import PlcMonitor.Text.Case

/-! How a tag's registers are read: one word, a pair of words, or sixteen bits. -/
namespace PlcMonitor

inductive DataType where
  | integer
  | real
  | digital
deriving DecidableEq, Repr

namespace DataType

def registers : DataType → UInt16
  | .real => 2
  | .integer | .digital => 1

def name : DataType → String
  | .integer => "INTEGER"
  | .real => "REAL"
  | .digital => "DIGITAL"

structure Unsupported where
  name : String
deriving DecidableEq, Repr

def Unsupported.message (fault : Unsupported) : String :=
  s!"unsupported data type '{fault.name}' (expected INTEGER, REAL or DIGITAL)"

/-- Surrounding blanks and letter case do not matter. -/
def ofName (raw : String) : Except Unsupported DataType :=
  match Text.upper (Text.trim raw) with
  | "INTEGER" => .ok .integer
  | "REAL" => .ok .real
  | "DIGITAL" => .ok .digital
  | other => .error ⟨other⟩

@[simp] theorem ofName_name (type : DataType) : ofName type.name = .ok type := by
  cases type <;> rfl

theorem registers_pos (type : DataType) : 0 < type.registers := by
  cases type <;> decide

end DataType
end PlcMonitor
