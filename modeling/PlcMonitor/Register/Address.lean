import PlcMonitor.Register.DataType

/-! Holding register addresses: the `4xxxx` numbers that people write, the sixteen-bit numbers on
the line, and the registers that a tag at one of them occupies. -/
namespace PlcMonitor

/-- The written number of register 0. The first written number, 40001, stands for register 1. -/
def addressBase : Nat := 40000

def registerCount : Nat := 65536

inductive AddressFault where
  | outside (address : UInt32)
  | pastEnd (address : UInt32) (type : DataType)
deriving DecidableEq, Repr

def AddressFault.message : AddressFault → String
  | .outside address => s!"address {address.toNat} is outside the 4xxxx holding register range"
  | .pastEnd address type => s!"address {address.toNat} ({type.name}) runs past the last register"

def registerNumber (address : UInt32) : Except AddressFault UInt16 :=
  if addressBase ≤ address.toNat ∧ address.toNat - addressBase < registerCount then
    .ok (address.toNat - addressBase).toUInt16
  else
    .error (.outside address)

structure Span where
  first : UInt16
  count : UInt16
deriving DecidableEq, Repr

namespace Span

def last (span : Span) : Nat := span.first.toNat + span.count.toNat - 1

def contains (outer inner : Span) : Bool :=
  outer.first ≤ inner.first && inner.last ≤ outer.last

/-- The registers, in the words of a memory. A number past the last register starts again at 0. -/
def words (span : Span) (memory : UInt16 → UInt16) : List UInt16 :=
  (List.range span.count.toNat).map fun offset => memory (span.first + offset.toUInt16)

@[simp] theorem length_words (span : Span) (memory : UInt16 → UInt16) :
    (span.words memory).length = span.count.toNat := by
  simp [words]

end Span

/-- Where a tag's value lies: a real starts one register after its own number. -/
def readSpan (address : UInt32) (type : DataType) : Except AddressFault Span := do
  let base ← registerNumber address
  let first := match type with
    | .real => base.toNat + 1
    | .integer | .digital => base.toNat
  if first + type.registers.toNat ≤ registerCount then
    .ok ⟨first.toUInt16, type.registers⟩
  else
    .error (.pastEnd address type)

end PlcMonitor
