import PlcMonitor.Document.Record

/-! Limits of block reads and the interval of polling. -/
namespace PlcMonitor

structure ScanSettings where
  maxBlockSize : UInt16 := 120
  /-- Unused registers that one block may span between two tags. -/
  maxGap : UInt16 := 2
  pollIntervalMs : UInt64 := 1000
deriving DecidableEq, Repr

def minBlockSize : UInt16 := 2

def maxRequestSize : UInt16 := 125

namespace ScanSettings
variable {ε : Type}

def maxBlockSizeField : Field ε UInt16 := ⟨"max_block_size", Reader.uint16, some 120⟩

def maxGapField : Field ε UInt16 := ⟨"max_gap", Reader.uint16, some 2⟩

def pollIntervalField : Field ε UInt64 := ⟨"poll_interval_ms", Reader.uint64, some 1000⟩

def ofNode : Reader ε ScanSettings := fun node => do
  let record ← Record.ofNode
    [maxBlockSizeField.probe, maxGapField.probe, pollIntervalField.probe] node
  return ⟨← record.get maxBlockSizeField, ← record.get maxGapField,
    ← record.get pollIntervalField⟩

inductive Invalid where
  | blockSize (got : UInt16)
  | zeroInterval
deriving DecidableEq, Repr

def Invalid.message : Invalid → String
  | .blockSize got =>
    s!"max_block_size must be between {minBlockSize.toNat} and {maxRequestSize.toNat}, got {got.toNat}"
  | .zeroInterval => "poll_interval_ms must be greater than 0"

def validate (settings : ScanSettings) : Except Invalid Unit :=
  if settings.maxBlockSize < minBlockSize ∨ maxRequestSize < settings.maxBlockSize then
    .error (.blockSize settings.maxBlockSize)
  else if settings.pollIntervalMs = 0 then
    .error .zeroInterval
  else
    .ok ()

def toDocument (settings : ScanSettings) : Document :=
  .record [("max_block_size", .int settings.maxBlockSize.toNat),
    ("max_gap", .int settings.maxGap.toNat),
    ("poll_interval_ms", .int settings.pollIntervalMs.toNat)]

end ScanSettings
end PlcMonitor
