import PlcMonitor.Document.Node
import PlcMonitor.Table

/-! Values decoded from registers. -/
namespace PlcMonitor

inductive Value where
  | int (value : Int)
  | float (value : Float)
  | bits (states : Table String Bool)

namespace Value

def asFloat : Value → Option Float
  | .int i => some (Node.floatOfInt i)
  | .float x => some x
  | .bits _ => none

def truncate (x : Float) : Option Int :=
  let bits := x.toBits.toNat
  match Decimal.double.read bits with
  | .finite size =>
    let whole := if Decimal.double.isNegative bits then -(size.whole : Int) else size.whole
    some (max Int64.minValue.toInt (min Int64.maxValue.toInt whole))
  | _ => none

def asInt : Value → Option Int
  | .int i => some i
  | .float x => truncate x
  | .bits _ => none

def bit (label : String) : Value → Option Bool
  | .bits states => states.get? label
  | _ => none

def typeName : Value → String
  | .int _ => "int"
  | .float _ => "float"
  | .bits _ => "bits"

def display : Value → String
  | .int i => toString i
  | .float x => Decimal.inFull.write Decimal.double x.toBits.toNat
  | .bits states =>
    let items := states.entries.map fun (label, on) => label ++ (if on then ": ON" else ": OFF")
    "\x7b" ++ ", ".intercalate items ++ "\x7d"

def toDocument : Value → Document
  | .int i => .record [("type", .text "Int"), ("value", .int i)]
  | .float x => .record [("type", .text "Float"), ("value", .float x)]
  | .bits states =>
    .record [("type", .text "Bits"),
      ("value", .record (states.entries.map fun (label, on) => (label, .bool on)))]

end Value

structure Reading where
  value : Value
  raw : List UInt16

def Reading.toDocument (reading : Reading) : Document :=
  .record [("value", reading.value.toDocument),
    ("raw", .list (reading.raw.map fun word => .int word.toNat))]

end PlcMonitor
