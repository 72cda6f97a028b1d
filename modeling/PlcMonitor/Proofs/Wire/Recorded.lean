import PlcMonitor.Device.Fault
import PlcMonitor.Wire.Rehearsed

/-! Transports that keep a record: every call made on a connection, with what came of it. The
record changes no outcome, so what it shows of an operation is what the operation does. -/
namespace PlcMonitor
variable {τ υ α : Type}

inductive WireRequest where
  | read (unit : UInt8) (address count : UInt16)
  | write (unit : UInt8) (address value : UInt16)
deriving DecidableEq, Repr

/-- What comes of a call: nothing if it is cut off. -/
abbrev Reply (α : Type) := Option (Except TransportFault α)

/-- The outcome that the caller sees. -/
def Reply.settle (limitMs : Nat) : Reply α → Except TransportFault α
  | none => .error (.timeout limitMs)
  | some outcome => outcome

theorem Reply.settle_eq_ok {limitMs : Nat} {reply : Reply α} {answer : α} :
    reply.settle limitMs = .ok answer ↔ reply = some (.ok answer) := by
  cases reply <;> simp [settle]

namespace WireRequest

abbrev Answer : WireRequest → Type
  | .read .. => List UInt16
  | .write .. => Unit

/-- The answer, if it is as long as was asked for. -/
def accept : (request : WireRequest) → request.Answer → Except TransportFault request.Answer
  | .read _ _ count, words => Transport.requireLength count words
  | .write .., done => .ok done

def send (wires : Transport τ) : (request : WireRequest) → τ → Exchange τ request.Answer
  | .read unit address count => wires.readExactly unit address count
  | .write unit address value => wires.write unit address value

/-- What a reply is worth to the caller. -/
def verdict (request : WireRequest) (limitMs : Nat) (reply : Reply request.Answer) :
    Except TransportFault request.Answer :=
  match reply.settle limitMs with
  | .ok answer => request.accept answer
  | .error fault => .error fault

theorem accept_eq_ok {request : WireRequest} {answer accepted : request.Answer}
    (h : request.accept answer = .ok accepted) : accepted = answer := by
  cases request with
  | read unit address count =>
    simp only [accept, Transport.requireLength] at h
    split at h
    · exact (Except.ok.inj h).symm
    · cases h
  | write unit address value => rfl

theorem verdict_eq_ok {request : WireRequest} {limitMs : Nat} {reply : Reply request.Answer}
    {answer : request.Answer} : request.verdict limitMs reply = .ok answer ↔
      reply = some (.ok answer) ∧ request.accept answer = .ok answer := by
  constructor
  · intro h
    unfold verdict at h
    cases settled : reply.settle limitMs with
    | error fault => simp [settled] at h
    | ok brought =>
      simp only [settled] at h
      obtain rfl := accept_eq_ok h
      exact ⟨Reply.settle_eq_ok.mp settled, h⟩
  · rintro ⟨rfl, h⟩
    exact h

theorem length_of_accept {unit : UInt8} {address count : UInt16} {words : List UInt16}
    (h : (read unit address count).accept words = .ok words) : words.length = count.toNat := by
  simp only [accept, Transport.requireLength] at h
  split at h
  · assumption
  · cases h

end WireRequest

inductive WireEvent where
  | connect (reply : Reply Unit)
  | close
  | asked (request : WireRequest) (reply : Reply request.Answer)

/-- A request that succeeded, and what it brought. -/
abbrev Success := (request : WireRequest) × request.Answer

namespace WireEvent

def request? : WireEvent → Option WireRequest
  | .asked request _ => some request
  | .connect _ | .close => none

def success? : WireEvent → Option Success
  | .asked request (some (.ok answer)) =>
    match request.accept answer with
    | .ok answer => some ⟨request, answer⟩
    | .error _ => none
  | _ => none

def fault? (device : String) (limitMs : Nat) : WireEvent → Option DeviceFault
  | .connect reply =>
    match reply.settle limitMs with
    | .ok () => none
    | .error cause => some (.connect device cause)
  | .close => none
  | .asked request reply =>
    match request.verdict limitMs reply with
    | .ok _ => none
    | .error cause => some (.request device cause)

section Request
variable {request : WireRequest} {limitMs : Nat} {reply : Reply request.Answer}

theorem success?_of_error {cause : TransportFault}
    (h : request.verdict limitMs reply = .error cause) :
    (WireEvent.asked request reply).success? = none := by
  match reply with
  | none | some (.error _) => rfl
  | some (.ok answer) =>
    change request.accept answer = .error cause at h
    simp [success?, h]

theorem fault?_of_error {cause : TransportFault} (device : String)
    (h : request.verdict limitMs reply = .error cause) :
    (WireEvent.asked request reply).fault? device limitMs = some (.request device cause) := by
  simp [fault?, h]

end Request

theorem fault?_eq_some {event : WireEvent} {device : String} {limitMs : Nat} {fault : DeviceFault}
    (h : event.fault? device limitMs = some fault) :
    ∃ cause, fault = .connect device cause ∨ fault = .request device cause := by
  cases event with
  | connect reply =>
    simp only [fault?] at h
    cases settled : reply.settle limitMs with
    | ok done => simp [settled] at h
    | error cause => exact ⟨cause, .inl (by simpa [settled] using h.symm)⟩
  | close => cases h
  | asked request reply =>
    simp only [fault?] at h
    cases judged : request.verdict limitMs reply with
    | ok answer => simp [judged] at h
    | error cause => exact ⟨cause, .inr (by simpa [judged] using h.symm)⟩

end WireEvent

def requests (events : List WireEvent) : List WireRequest := events.filterMap WireEvent.request?

def successes (events : List WireEvent) : List Success := events.filterMap WireEvent.success?

def faults (device : String) (limitMs : Nat) (events : List WireEvent) : List DeviceFault :=
  events.filterMap (WireEvent.fault? device limitMs)

@[simp] theorem requests_append (first second : List WireEvent) :
    requests (first ++ second) = requests first ++ requests second :=
  List.filterMap_append

@[simp] theorem successes_append (first second : List WireEvent) :
    successes (first ++ second) = successes first ++ successes second :=
  List.filterMap_append

@[simp] theorem faults_append (device : String) (limitMs : Nat) (first second : List WireEvent) :
    faults device limitMs (first ++ second) =
      faults device limitMs first ++ faults device limitMs second :=
  List.filterMap_append

theorem mem_requests {request : WireRequest} {reply : Reply request.Answer}
    {events : List WireEvent} (h : WireEvent.asked request reply ∈ events) :
    request ∈ requests events :=
  List.mem_filterMap.mpr ⟨_, h, rfl⟩

/-- A connection, and the calls made on it so far. -/
structure Recorded (τ : Type) where
  wire : τ
  log : List WireEvent := []

def Exchange.recorded (exchange : Exchange τ α) (log : List WireEvent)
    (event : Reply α → WireEvent) : Exchange (Recorded τ) α where
  started := ⟨exchange.started, log ++ [event none]⟩
  delayMs := exchange.delayMs
  yields := exchange.yields
  outcome := exchange.outcome
  finished := ⟨exchange.finished, log ++ [event (some exchange.outcome)]⟩

def Transport.recorded (wires : Transport τ) : Transport (Recorded τ) where
  isOpen recorded := wires.isOpen recorded.wire
  connect recorded := (wires.connect recorded.wire).recorded recorded.log .connect
  close recorded := ⟨wires.close recorded.wire, recorded.log ++ [.close]⟩
  read unit address count recorded :=
    (wires.read unit address count recorded.wire).recorded recorded.log
      (.asked (.read unit address count))
  write unit address value recorded :=
    (wires.write unit address value recorded.wire).recorded recorded.log
      (.asked (.write unit address value))

theorem Exchange.recorded_within (exchange : Exchange τ α) (log : List WireEvent)
    (event : Reply α → WireEvent) (limitMs : Nat) :
    ∃ reply wire ms, (exchange.recorded log event).within limitMs =
      (Reply.settle limitMs reply, ⟨wire, log ++ [event reply]⟩, ms) := by
  unfold within
  split
  · exact ⟨some exchange.outcome, _, _, rfl⟩
  · exact ⟨none, _, _, rfl⟩

theorem WireRequest.send_recorded_within (wires : Transport τ) (request : WireRequest)
    (recorded : Recorded τ) (limitMs : Nat) :
    ∃ reply wire ms, (request.send wires.recorded recorded).within limitMs =
      (request.verdict limitMs reply, ⟨wire, recorded.log ++ [.asked request reply]⟩, ms) := by
  cases request with
  | read unit address count =>
    unfold Exchange.within
    split
    · refine ⟨some (wires.read unit address count recorded.wire).outcome, _, _,
        Prod.ext ?_ rfl⟩
      simp only [send, Transport.readExactly, Transport.recorded, Exchange.recorded]
      cases h : (wires.read unit address count recorded.wire).outcome <;>
        simp [verdict, Reply.settle, accept]
    · exact ⟨none, _, _, rfl⟩
  | write unit address value =>
    obtain ⟨reply, wire, ms, h⟩ := Exchange.recorded_within
      (wires.write unit address value recorded.wire) recorded.log
      (.asked (.write unit address value)) limitMs
    refine ⟨reply, wire, ms, h.trans (Prod.ext ?_ rfl)⟩
    cases settled : reply.settle limitMs <;> simp [verdict, settled, accept]

/-- Seen through `f`, each call on the first transport is the call on the second. -/
structure Transport.Projects (f : τ → υ) (wires : Transport τ) (onto : Transport υ) : Prop where
  isOpen : ∀ wire, onto.isOpen (f wire) = wires.isOpen wire
  connect : ∀ wire, onto.connect (f wire) = (wires.connect wire).mapState f
  close : ∀ wire, onto.close (f wire) = f (wires.close wire)
  read : ∀ unit address count wire,
    onto.read unit address count (f wire) = (wires.read unit address count wire).mapState f
  write : ∀ unit address value wire,
    onto.write unit address value (f wire) = (wires.write unit address value wire).mapState f

theorem Transport.recorded_projects (wires : Transport τ) :
    wires.recorded.Projects Recorded.wire wires where
  isOpen _ := rfl
  connect _ := rfl
  close _ := rfl
  read _ _ _ _ := rfl
  write _ _ _ _ := rfl

/-- What connecting and closing keep, whether a call is cut off or comes to its outcome. -/
structure Transport.KeepsIdle (wires : Transport τ) (kept : τ → Prop) : Prop where
  connect : ∀ {wire}, kept wire →
    kept (wires.connect wire).started ∧ kept (wires.connect wire).finished
  close : ∀ {wire}, kept wire → kept (wires.close wire)

/-- What every call keeps. -/
structure Transport.Keeps (wires : Transport τ) (kept : τ → Prop) : Prop extends
    wires.KeepsIdle kept where
  send : ∀ {wire} (request : WireRequest), kept wire →
    kept (request.send wires wire).started ∧ kept (request.send wires wire).finished

end PlcMonitor
