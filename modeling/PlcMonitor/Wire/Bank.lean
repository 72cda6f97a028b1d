import PlcMonitor.Register.Address
import PlcMonitor.Wire.Transport

/-! Holding registers in memory, with faults to order, and the transport over them. -/
namespace PlcMonitor

structure BankFaults where
  refuseConnect : Bool := false
  failRequests : Nat := 0
  exception : Bool := false
  /-- Writes are acknowledged and not applied. -/
  ignoreWrites : Bool := false
  delayMs : Nat := 0
deriving DecidableEq, Repr

structure RegisterBank where
  memory : UInt16 → UInt16 := fun _ => 0
  faults : BankFaults := {}
  reads : Nat := 0
  writes : Nat := 0
  opens : Nat := 0

namespace RegisterBank

def setWord (memory : UInt16 → UInt16) (address value : UInt16) : UInt16 → UInt16 := fun other =>
  if other = address then value else memory other

def set (bank : RegisterBank) (address value : UInt16) : RegisterBank :=
  { bank with memory := setWord bank.memory address value }

/-- Words one after another; the first register follows the last. -/
def load (bank : RegisterBank) (address : UInt16) : List UInt16 → RegisterBank
  | [] => bank
  | word :: rest => (bank.set address word).load (address + 1) rest

def receive (bank : RegisterBank) : Option TransportFault × RegisterBank :=
  match bank.faults.failRequests with
  | left + 1 =>
    (some (.io "connection reset by peer"),
      { bank with faults := { bank.faults with failRequests := left } })
  | 0 => (if bank.faults.exception then some (.exception "illegal data address") else none, bank)

def countRead (bank : RegisterBank) : RegisterBank := { bank with reads := bank.reads + 1 }

def applyWrite (bank : RegisterBank) (address value : UInt16) : RegisterBank :=
  let bank := { bank with writes := bank.writes + 1 }
  if bank.faults.ignoreWrites then bank else bank.set address value

@[simp] theorem setWord_self (memory : UInt16 → UInt16) (address value : UInt16) :
    setWord memory address value address = value := by
  simp [setWord]

theorem setWord_of_ne (memory : UInt16 → UInt16) {address other : UInt16} (value : UInt16)
    (h : other ≠ address) : setWord memory address value other = memory other := by
  simp [setWord, h]

end RegisterBank

structure BankWire where
  bank : RegisterBank := {}
  isOpen : Bool := false

namespace BankWire

def connect (wire : BankWire) : Exchange BankWire Unit :=
  let bank := { wire.bank with opens := wire.bank.opens + 1 }
  if bank.faults.refuseConnect then .failed { wire with bank } (.io "connection refused")
  else
    let wire := ⟨bank, true⟩
    { started := wire, outcome := .ok (), finished := wire }

def read (wire : BankWire) (address count : UInt16) : Exchange BankWire (List UInt16) :=
  if !wire.isOpen then .failed wire .notConnected
  else match wire.bank.receive with
    | (some fault, bank) => .failed { wire with bank } fault
    | (none, bank) =>
      let after := { wire with bank := bank.countRead }
      { started := after
        delayMs := bank.faults.delayMs
        yields := true
        outcome := .ok ((Span.mk address count).words bank.memory)
        finished := after }

/-- The word is written when the delay is over, and not at all if the request is cut off. -/
def write (wire : BankWire) (address value : UInt16) : Exchange BankWire Unit :=
  if !wire.isOpen then .failed wire .notConnected
  else match wire.bank.receive with
    | (some fault, bank) => .failed { wire with bank } fault
    | (none, bank) =>
      { started := { wire with bank }
        delayMs := bank.faults.delayMs
        outcome := .ok ()
        finished := { wire with bank := bank.applyWrite address value } }

end BankWire

def bankTransport : Transport BankWire where
  isOpen := BankWire.isOpen
  connect := BankWire.connect
  close wire := { wire with isOpen := false }
  read _ address count wire := wire.read address count
  write _ address value wire := wire.write address value

end PlcMonitor
