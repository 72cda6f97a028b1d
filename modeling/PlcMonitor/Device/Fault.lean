import PlcMonitor.Tag.BitKey
import PlcMonitor.Wire.Transport

/-! Why an operation on a device fails. -/
namespace PlcMonitor

def maxReadCount : UInt16 := 125

inductive ArgumentFault where
  | badCount (got : UInt16)
  | pastEnd (address count : UInt16)
  | badBit (got : UInt8)
  | badBitValue (got : UInt8)
deriving DecidableEq, Repr

def ArgumentFault.message : ArgumentFault → String
  | .badCount got => s!"register count must be in 1..={maxReadCount.toNat}, got {got.toNat}"
  | .pastEnd address count =>
    s!"read of {count.toNat} registers at {address.toNat} runs past the last register"
  | .badBit got => s!"bit must be in 0..={maxBit}, got {got.toNat}"
  | .badBitValue got => s!"bit value must be 0 or 1, got {got.toNat}"

inductive DeviceFault where
  | unknown (device : String)
  | argument (cause : ArgumentFault)
  | connect (device : String) (cause : TransportFault)
  | request (device : String) (cause : TransportFault)
  | noWord (device : String)
  /-- A bit that was written reads back as the other value. -/
  | mismatch (device : String) (address : UInt16) (bit expected actual : UInt8)
deriving DecidableEq, Repr

namespace DeviceFault

def isRecoverable : DeviceFault → Bool
  | .connect .. | .request .. | .noWord _ => true
  | .unknown _ | .argument _ | .mismatch .. => false

/-- The device answered, and answered wrong. -/
def protocolReason? : DeviceFault → Option String
  | .request _ cause => cause.answered?
  | .noWord _ => some "empty register response"
  | _ => none

def message (fault : DeviceFault) : String :=
  match fault with
  | .unknown device => s!"Unknown device '{device}'"
  | .argument cause => s!"Invalid argument: {cause.message}"
  | .connect device cause => s!"Device '{device}' unavailable: connect: {cause.message}"
  | .request device cause =>
    match cause.answered? with
    | some reason => s!"Device '{device}' protocol error: {reason}"
    | none => s!"Device '{device}' unavailable: {cause.message}"
  | .noWord device => s!"Device '{device}' protocol error: empty register response"
  | .mismatch device address bit expected actual =>
    s!"Verification mismatch on '{device}' register {address.toNat} bit {bit.toNat}: " ++
      s!"expected {expected.toNat}, read back {actual.toNat}"

end DeviceFault
end PlcMonitor
