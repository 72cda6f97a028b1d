import PlcMonitor.Alarm.Lifecycle
import PlcMonitor.Proofs.Alarm.Change

/-! Calls of the lifecycle as series of attempts. An attempt is one read and at most one write; a
write that is accepted does to the store what the whole call would do to it at once. -/
namespace PlcMonitor

namespace Script
variable {α β γ : Type}

@[simp] theorem bind_done (script : Script α) : script.bind .done = script := by
  induction script with
  | done result => rfl
  | ask request next ih => exact congrArg (Script.ask request) (funext ih)
  | announce event rest ih => exact congrArg (Script.announce event) ih

end Script

namespace MemoryStore

def observe (store : MemoryStore) (seen : Observation) : MemoryStore :=
  match store.find? seen.source seen.key with
  | some row => (store.update (row.observe seen).1 (row.observe seen).2).2
  | none =>
    if seen.state.isActive then
      (store.insert seen.toOccurrence (seen.event seen.toOccurrence none)).2
    else store

def acknowledge (store : MemoryStore) (id : Nat) (now : Instant) (identity : String)
    (note : Option String) : MemoryStore :=
  match store.rows.get? id with
  | some row => (store.update (row.acknowledge now identity note) none).2
  | none => store

end MemoryStore

/-- A call of the lifecycle with what its caller brings. The attempt after `n` conflicts reads
`clock n` as its time. -/
inductive Call where
  | observe (seen : Observation)
  | acknowledge (id : Nat) (clock : Nat → Instant) (identity : String) (note : Option String)

namespace Call

abbrev Answer : Call → Type
  | .observe _ => Transition
  | .acknowledge .. => Occurrence

def script (retries : Nat) : (call : Call) → Script (Except LifecycleFault call.Answer)
  | .observe seen => Lifecycle.setState retries seen
  | .acknowledge id clock identity note => Lifecycle.acknowledge retries id clock identity note

def attempt : (call : Call) → Nat → Script (Except StoreFault call.Answer)
  | .observe seen, _ => Lifecycle.observeOnce seen.normalized
  | .acknowledge id clock identity note, n =>
    Lifecycle.acknowledgeOnce id (clock n) identity note

def finish : (call : Call) → Except StoreFault call.Answer →
    Script (Except LifecycleFault call.Answer)
  | .observe _, .error fault => .done (.error (.store fault))
  | .observe _, .ok transition =>
    match transition.event with
    | some event => .announce event (.done (.ok transition))
    | none => .done (.ok transition)
  | .acknowledge .., .error (.notFound id) => .done (.error (.unknownOccurrence id))
  | .acknowledge .., .error fault => .done (.error (.store fault))
  | .acknowledge .., .ok row => .done (.ok row)

def fault : Call → StoreFault → LifecycleFault
  | .acknowledge .., .notFound id => .unknownOccurrence id
  | .acknowledge .., fault | .observe _, fault => .store fault

/-- The event that an attempt has filed and leaves to be announced. -/
def left : (call : Call) → Except StoreFault call.Answer → List AlarmEvent
  | .observe _, .ok transition => transition.event.toList
  | .observe _, .error _ | .acknowledge .., _ => []

theorem script_eq (retries : Nat) (call : Call) :
    call.script retries = (Lifecycle.retrying call.attempt retries).bind call.finish := by
  cases call with
  | observe seen =>
    refine congrArg (Script.bind _) (funext fun result => ?_)
    cases result <;> rfl
  | acknowledge id clock identity note =>
    refine congrArg (Script.bind _) (funext fun result => ?_)
    rcases result with (_ | _ | _) | _ <;> rfl

/-- The call as its attempt after `n` conflicts sees it: the clock has gone on. -/
def after (n : Nat) : Call → Call
  | .observe seen => .observe seen
  | .acknowledge id clock identity note => .acknowledge id (fun m => clock (n + m)) identity note

/-- What the attempt after `n` conflicts does to a store that no one else is writing to. -/
def effect : Call → Nat → MemoryStore → MemoryStore
  | .observe seen, _, store => store.observe seen.normalized
  | .acknowledge id clock identity note, n, store => store.acknowledge id (clock n) identity note

theorem effect_after (call : Call) (n : Nat) : (call.after n).effect 0 = call.effect n := by
  cases call <;> rfl

def wrote {ε : Type} : (call : Call) → Except ε call.Answer → Bool
  | .observe _, .ok transition => transition.occurrence.isSome
  | .acknowledge .., .ok _ => true
  | .observe _, .error _ => false
  | .acknowledge .., .error _ => false

@[simp] theorem wrote_error {ε : Type} (call : Call) (fault : ε) :
    call.wrote (.error fault) = false := by
  cases call <;> rfl

theorem wrote_mapError {ε φ : Type} (call : Call) (f : ε → φ) (result : Except ε call.Answer) :
    call.wrote (result.mapError f) = call.wrote result := by
  cases call <;> cases result <;> rfl

theorem left_error (call : Call) (fault : StoreFault) : call.left (.error fault) = [] := by
  cases call <;> rfl

end Call

def lostRace {α : Type} : Except StoreFault α → Bool
  | .error fault => fault.isConflict
  | .ok _ => false

theorem conflict_of_lostRace {α : Type} {result : Except StoreFault α}
    (lost : lostRace result = true) : ∃ source key, result = .error (.conflict source key) := by
  rcases result with (⟨source, key⟩ | _ | _) | _
  · exact ⟨source, key, rfl⟩
  all_goals cases lost

def followUp {α : Type} (attempt : Nat → Script (Except StoreFault α)) :
    Nat → Except StoreFault α → Script (Except StoreFault α)
  | retries + 1, .error (.conflict ..) => Lifecycle.retrying (fun n => attempt (n + 1)) retries
  | _, result => .done result

theorem retrying_eq {α : Type} (attempt : Nat → Script (Except StoreFault α)) (retries : Nat) :
    Lifecycle.retrying attempt retries = (attempt 0).bind (followUp attempt retries) := by
  cases retries with
  | zero => exact (Script.bind_done _).symm
  | succ retries =>
    refine congrArg (Script.bind _) (funext fun result => ?_)
    rcases result with (_ | _ | _) | _ <;> rfl

theorem followUp_won {α : Type} (attempt : Nat → Script (Except StoreFault α)) (retries : Nat)
    {result : Except StoreFault α} (won : lostRace result = false) :
    followUp attempt retries result = .done result := by
  rcases result with (_ | _ | _) | _ <;> cases retries <;> first | rfl | cases won

end PlcMonitor
