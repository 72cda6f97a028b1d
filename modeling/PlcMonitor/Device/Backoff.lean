/-! How long to wait between attempts: twice as long each time, up to a cap. -/
namespace PlcMonitor.Backoff

def largest : UInt64 := 0xFFFFFFFFFFFFFFFF

/-- Two to the power of `attempt`, or the largest number if that is too large. -/
def factor (attempt : UInt32) : UInt64 :=
  if attempt < 64 then 1 <<< attempt.toUInt64 else largest

def saturatingMul (a b : UInt64) : UInt64 :=
  if a ≠ 0 ∧ largest / a < b then largest else a * b

def delay (backoff cap : UInt64) (attempt : UInt32) : UInt64 :=
  min (saturatingMul backoff (factor attempt)) cap

end PlcMonitor.Backoff
