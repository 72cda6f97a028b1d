/-! Transports: one connection to a device, on which registers are read and written. A call takes
time, and the caller may cut it off. -/
namespace PlcMonitor

inductive TransportFault where
  | io (reason : String)
  | timeout (ms : Nat)
  | exception (reason : String)
  | wrongLength (expected got : Nat)
  | notConnected
deriving DecidableEq, Repr

namespace TransportFault

def answered? : TransportFault → Option String
  | .exception reason => some reason
  | .wrongLength expected got => some s!"expected {expected} registers, got {got}"
  | .io _ | .timeout _ | .notConnected => none

def message (fault : TransportFault) : String :=
  match fault.answered? with
  | some reason => s!"Device exception: {reason}"
  | none =>
    match fault with
    | .io reason => s!"I/O failure: {reason}"
    | .timeout ms => s!"Request timed out after {ms} ms"
    | _ => "Not connected"

end TransportFault

structure Exchange (τ α : Type) where
  /-- The state while the call is under way, in which it stays if it is cut off. -/
  started : τ
  delayMs : Nat := 0
  /-- What runs beside the call gets its turn, even if the call takes no time. -/
  yields : Bool := false
  outcome : Except TransportFault α
  finished : τ

namespace Exchange
variable {τ α : Type}

def failed (state : τ) (fault : TransportFault) : Exchange τ α where
  started := state
  outcome := .error fault
  finished := state

def pauses (exchange : Exchange τ α) : Bool := exchange.yields || 0 < exchange.delayMs

/-- The outcome, the state and the time taken. A call as long as the limit is not cut off. -/
def within (exchange : Exchange τ α) (limitMs : Nat) : Except TransportFault α × τ × Nat :=
  if exchange.delayMs ≤ limitMs then (exchange.outcome, exchange.finished, exchange.delayMs)
  else (.error (.timeout limitMs), exchange.started, limitMs)

theorem within_time_le (exchange : Exchange τ α) (limitMs : Nat) :
    (exchange.within limitMs).2.2 ≤ limitMs := by
  unfold within
  split
  · assumption
  · exact Nat.le_refl _

end Exchange

structure Transport (τ : Type) where
  isOpen : τ → Bool
  connect : τ → Exchange τ Unit
  close : τ → τ
  read : (unit : UInt8) → (address count : UInt16) → τ → Exchange τ (List UInt16)
  write : (unit : UInt8) → (address value : UInt16) → τ → Exchange τ Unit

namespace Transport
variable {τ : Type}

def requireLength (count : UInt16) (words : List UInt16) : Except TransportFault (List UInt16) :=
  if words.length = count.toNat then .ok words
  else .error (.wrongLength count.toNat words.length)

def readExactly (wires : Transport τ) (unit : UInt8) (address count : UInt16) (wire : τ) :
    Exchange τ (List UInt16) :=
  let exchange := wires.read unit address count wire
  { exchange with
    outcome := match exchange.outcome with
      | .ok words => requireLength count words
      | .error fault => .error fault }

end Transport
end PlcMonitor
