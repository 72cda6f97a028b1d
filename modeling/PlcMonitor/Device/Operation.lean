import PlcMonitor.Device.Link
import PlcMonitor.Register.Address

/-! Operations on the registers of a device. Arguments are checked before anything is done. -/
namespace PlcMonitor

inductive Operation where
  | readBlock (address count : UInt16)
  | readRegister (address : UInt16)
  | readBit (address : UInt16) (bit : UInt8)
  | writeRegister (address value : UInt16)
  /-- Sets one bit and leaves the others; `verify` reads it back. -/
  | writeBit (address : UInt16) (bit value : UInt8) (verify : Bool)
deriving DecidableEq, Repr

namespace Operation

abbrev Answer : Operation → Type
  | .readBlock .. => List UInt16
  | .readRegister _ => UInt16
  | .readBit .. => Bool
  | .writeRegister .. | .writeBit .. => Unit

def checkBit (bit : UInt8) : Except ArgumentFault Unit :=
  if maxBit < bit.toNat then .error (.badBit bit) else .ok ()

def check : Operation → Except ArgumentFault Unit
  | .readBlock address count =>
    if count = 0 ∨ maxReadCount < count then .error (.badCount count)
    else if registerCount < address.toNat + count.toNat then .error (.pastEnd address count)
    else .ok ()
  | .readBit _ bit => checkBit bit
  | .writeBit _ bit value _ =>
    match checkBit bit with
    | .error fault => .error fault
    | .ok () => if 1 < value then .error (.badBitValue value) else .ok ()
  | .readRegister _ | .writeRegister .. => .ok ()

def mask (bit : UInt8) : UInt16 := 1 <<< bit.toUInt16

def testBit (word : UInt16) (bit : UInt8) : Bool := word &&& mask bit ≠ 0

def withBit (word : UInt16) (bit value : UInt8) : UInt16 :=
  if value = 1 then word ||| mask bit else word &&& ~~~mask bit

variable {τ : Type}

def writeBitOn (wires : Transport τ) (address : UInt16) (bit value : UInt8) (verify : Bool)
    (link : Link τ) : Except DeviceFault Unit × Link τ :=
  match link.readWord wires address with
  | (.error fault, link) => (.error fault, link)
  | (.ok word, link) =>
    match link.writeWord wires address (withBit word bit value) with
    | (.error fault, link) => (.error fault, link)
    | (.ok (), link) =>
      if !verify then (.ok (), link)
      else match link.readWord wires address with
        | (.error fault, link) => (.error fault, link)
        | (.ok word, link) =>
          let actual : UInt8 := if testBit word bit then 1 else 0
          if actual = value then (.ok (), link)
          else (.error (.mismatch link.name address bit value actual), link)

def perform (wires : Transport τ) :
    (operation : Operation) → Link τ → Except DeviceFault operation.Answer × Link τ
  | .readBlock address count, link => link.readWords wires address count
  | .readRegister address, link => link.readWord wires address
  | .readBit address bit, link =>
    match link.readWord wires address with
    | (.ok word, link) => (.ok (testBit word bit), link)
    | (.error fault, link) => (.error fault, link)
  | .writeRegister address value, link => link.writeWord wires address value
  | .writeBit address bit value verify, link => writeBitOn wires address bit value verify link

end Operation
end PlcMonitor
