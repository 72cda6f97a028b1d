import PlcMonitor.Document.Basic

/-! The straight line from raw register values to engineering units. -/
namespace PlcMonitor

structure Scaling where
  rawZero : Float
  rawFull : Float
  engZero : Float
  engFull : Float

namespace Scaling

def ofParts (rawZero rawFull engZero engFull : Option Float) : Option Scaling := do
  return ⟨← rawZero, ← rawFull, ← engZero, ← engFull⟩

/-- Nothing when the raw span is zero. -/
def apply (scaling : Scaling) (raw : Float) : Option Float :=
  let span := scaling.rawFull - scaling.rawZero
  if span == 0.0 then none
  else some (scaling.engZero +
    (raw - scaling.rawZero) * (scaling.engFull - scaling.engZero) / span)

def toDocument (scaling : Scaling) : Document :=
  .record [("raw_zero", .float scaling.rawZero), ("raw_full", .float scaling.rawFull),
    ("eng_zero", .float scaling.engZero), ("eng_full", .float scaling.engFull)]

end Scaling
end PlcMonitor
