import PlcMonitor.Proofs.Wire.Recorded

/-! Connections step by step: what is looked at, asked and waited for, and how long each step
takes. -/
namespace PlcMonitor
variable {τ : Type}

inductive TimedStep where
  /-- Whether the connection is open is looked at. -/
  | look (isOpen : Bool)
  | connect (outcome : Except TransportFault Unit) (ms : Nat)
  | ask (request : WireRequest) (outcome : Except TransportFault request.Answer) (ms : Nat)
  | close
  | rest (ms : Nat)

namespace TimedStep

def ms : TimedStep → Nat
  | .connect _ ms | .ask _ _ ms | .rest ms => ms
  | .look _ | .close => 0

/-- It is the device that is waited for. -/
def isCall : TimedStep → Bool
  | .connect .. | .ask .. => true
  | .look _ | .close | .rest _ => false

def duration : List TimedStep → Nat
  | [] => 0
  | step :: later => step.ms + duration later

theorem duration_append (first second : List TimedStep) :
    duration (first ++ second) = duration first + duration second := by
  induction first with
  | nil => exact (Nat.zero_add _).symm
  | cons step first ih => rw [List.cons_append, duration, duration, ih, Nat.add_assoc]

end TimedStep

namespace WireRequest

def call (wires : Transport τ) : (request : WireRequest) → τ → Exchange τ request.Answer
  | .read unit address count => wires.read unit address count
  | .write unit address value => wires.write unit address value

def Fits : (request : WireRequest) → request.Answer → Prop
  | .read _ _ count, words => words.length = count.toNat
  | .write .., _ => True

theorem accept_of_fits {request : WireRequest} {answer : request.Answer}
    (fits : request.Fits answer) : request.accept answer = .ok answer := by
  cases request with
  | read unit address count => exact if_pos fits
  | write unit address value => rfl

theorem fits_of_accept {request : WireRequest} {answer accepted : request.Answer}
    (h : request.accept answer = .ok accepted) : request.Fits accepted := by
  obtain rfl := accept_eq_ok h
  cases request with
  | read unit address count => exact length_of_accept h
  | write unit address value => trivial

theorem accept_of_not_fits {request : WireRequest} {answer : request.Answer}
    (misfit : ¬request.Fits answer) :
    ∃ cause, request.accept answer = .error cause ∧ cause.answered?.isSome = true := by
  cases request with
  | read unit address count => exact ⟨_, if_neg misfit, rfl⟩
  | write unit address value => exact absurd trivial misfit

theorem send_within (wires : Transport τ) (request : WireRequest) (wire : τ) (limitMs : Nat) :
    (request.send wires wire).within limitMs =
      (((request.call wires wire).within limitMs).1 >>= request.accept,
        ((request.call wires wire).within limitMs).2) := by
  cases request with
  | read unit address count =>
    dsimp only [send, call, Transport.readExactly, Exchange.within]
    by_cases inTime : (wires.read unit address count wire).delayMs ≤ limitMs
    · simp only [if_pos inTime]
      cases (wires.read unit address count wire).outcome <;> rfl
    · simp only [if_neg inTime]
      rfl
  | write unit address value =>
    dsimp only [send, call]
    cases ended : (wires.write unit address value wire).within limitMs with
    | mk outcome after => cases outcome <;> rfl

end WireRequest

/-- The steps lead from one state of the connection to the other. A call that is not over at the
limit is cut off. -/
inductive Transport.Plays (wires : Transport τ) (limitMs : Nat) :
    τ → List TimedStep → τ → Prop where
  | nil {wire : τ} : Plays wires limitMs wire [] wire
  | look {wire next : τ} {isOpen : Bool} {later : List TimedStep}
      (seen : wires.isOpen wire = isOpen) (plays : Plays wires limitMs wire later next) :
      Plays wires limitMs wire (.look isOpen :: later) next
  | connect {wire between next : τ} {outcome : Except TransportFault Unit} {ms : Nat}
      {later : List TimedStep}
      (ended : (wires.connect wire).within limitMs = (outcome, between, ms))
      (plays : Plays wires limitMs between later next) :
      Plays wires limitMs wire (.connect outcome ms :: later) next
  | ask {wire between next : τ} {request : WireRequest}
      {outcome : Except TransportFault request.Answer} {ms : Nat} {later : List TimedStep}
      (ended : (request.call wires wire).within limitMs = (outcome, between, ms))
      (plays : Plays wires limitMs between later next) :
      Plays wires limitMs wire (.ask request outcome ms :: later) next
  | close {wire next : τ} {later : List TimedStep}
      (plays : Plays wires limitMs (wires.close wire) later next) :
      Plays wires limitMs wire (.close :: later) next
  | rest {wire next : τ} {ms : Nat} {later : List TimedStep}
      (plays : Plays wires limitMs wire later next) :
      Plays wires limitMs wire (.rest ms :: later) next

section Plays
variable {wires : Transport τ} {limitMs : Nat} {wire between next : τ}
  {steps later : List TimedStep}

theorem Transport.Plays.append (first : wires.Plays limitMs wire steps between)
    (second : wires.Plays limitMs between later next) :
    wires.Plays limitMs wire (steps ++ later) next := by
  induction first with
  | nil => exact second
  | look seen _ ih => exact .look seen (ih second)
  | connect ended _ ih => exact .connect ended (ih second)
  | ask ended _ ih => exact .ask ended (ih second)
  | close _ ih => exact .close (ih second)
  | rest _ ih => exact .rest (ih second)

theorem Transport.Plays.ms_le (plays : wires.Plays limitMs wire steps next) :
    ∀ step ∈ steps, step.isCall = true → step.ms ≤ limitMs := by
  induction plays with
  | nil => exact List.forall_mem_nil _
  | look _ _ ih | close _ ih | rest _ ih => exact List.forall_mem_cons.mpr ⟨nofun, ih⟩
  | @connect wire _ _ _ _ _ ended _ ih =>
    refine List.forall_mem_cons.mpr ⟨fun _ => ?_, ih⟩
    have := (wires.connect wire).within_time_le limitMs
    rwa [ended] at this
  | @ask wire _ _ request _ _ _ ended _ ih =>
    refine List.forall_mem_cons.mpr ⟨fun _ => ?_, ih⟩
    have := (request.call wires wire).within_time_le limitMs
    rwa [ended] at this

end Plays
end PlcMonitor
