import PlcMonitor.Wire.Bank

/-! A transport that follows a list of replies and keeps a log of the calls made on it. -/
namespace PlcMonitor

inductive WireCall where
  | connect
  | close
  | read (unit : UInt8) (address count : UInt16)
  | write (unit : UInt8) (address value : UInt16)
deriving DecidableEq, Repr

def WireCall.text : WireCall → String
  | .connect => "open"
  | .close => "close"
  | .read unit address count => s!"read {unit.toNat} {address.toNat} {count.toNat}"
  | .write unit address value => s!"write {unit.toNat} {address.toNat} {value.toNat}"

structure WireReply where
  delayMs : Nat := 0
  fault : Option TransportFault := none
  /-- What a read brings; as many zeros as were asked for when it is not said. -/
  words : Option (List UInt16) := none

structure RehearsedWire where
  replies : List WireReply := []
  alwaysOpen : Bool := false
  markedOpen : Bool := false
  /-- The latest call first. -/
  calls : List WireCall := []

namespace RehearsedWire

def isOpen (wire : RehearsedWire) : Bool := wire.markedOpen || wire.alwaysOpen

def next (wire : RehearsedWire) (call : WireCall) : WireReply × RehearsedWire :=
  (wire.replies.headD {},
    { wire with replies := wire.replies.tail, calls := call :: wire.calls })

def exchange {α : Type} (wire : RehearsedWire) (call : WireCall) (answer : WireReply → α)
    (after : RehearsedWire → RehearsedWire) : Exchange RehearsedWire α :=
  let (reply, started) := wire.next call
  match reply.fault with
  | some fault =>
    { started, delayMs := reply.delayMs, outcome := .error fault, finished := started }
  | none =>
    { started, delayMs := reply.delayMs, outcome := .ok (answer reply), finished := after started }

end RehearsedWire

def rehearsedTransport : Transport RehearsedWire where
  isOpen := RehearsedWire.isOpen
  connect wire := wire.exchange .connect (fun _ => ()) fun wire => { wire with markedOpen := true }
  close wire := { wire with markedOpen := false, calls := .close :: wire.calls }
  read unit address count wire :=
    wire.exchange (.read unit address count)
      (fun reply => reply.words.getD (List.replicate count.toNat 0)) id
  write unit address value wire := wire.exchange (.write unit address value) (fun _ => ()) id

inductive SimulatedWire where
  | bank (wire : BankWire)
  | rehearsed (wire : RehearsedWire)

namespace SimulatedWire

def bank? : SimulatedWire → Option RegisterBank
  | .bank wire => some wire.bank
  | .rehearsed _ => none

def withBank (bank : RegisterBank) : SimulatedWire → SimulatedWire
  | .bank wire => .bank { wire with bank }
  | .rehearsed wire => .rehearsed wire

def calls : SimulatedWire → List WireCall
  | .bank _ => []
  | .rehearsed wire => wire.calls.reverse

def withoutCalls : SimulatedWire → SimulatedWire
  | .bank wire => .bank wire
  | .rehearsed wire => .rehearsed { wire with calls := [] }

end SimulatedWire

namespace Exchange

def mapState {τ υ α : Type} (f : τ → υ) (exchange : Exchange τ α) : Exchange υ α where
  started := f exchange.started
  delayMs := exchange.delayMs
  yields := exchange.yields
  outcome := exchange.outcome
  finished := f exchange.finished

end Exchange

def simulatedTransport : Transport SimulatedWire where
  isOpen
    | .bank wire => bankTransport.isOpen wire
    | .rehearsed wire => rehearsedTransport.isOpen wire
  connect
    | .bank wire => (bankTransport.connect wire).mapState .bank
    | .rehearsed wire => (rehearsedTransport.connect wire).mapState .rehearsed
  close
    | .bank wire => .bank (bankTransport.close wire)
    | .rehearsed wire => .rehearsed (rehearsedTransport.close wire)
  read unit address count
    | .bank wire => (bankTransport.read unit address count wire).mapState .bank
    | .rehearsed wire => (rehearsedTransport.read unit address count wire).mapState .rehearsed
  write unit address value
    | .bank wire => (bankTransport.write unit address value wire).mapState .bank
    | .rehearsed wire => (rehearsedTransport.write unit address value wire).mapState .rehearsed

end PlcMonitor
