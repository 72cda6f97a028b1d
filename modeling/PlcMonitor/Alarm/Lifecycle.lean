import PlcMonitor.Alarm.Script
import PlcMonitor.Sorting

/-! The lifecycle of alarms: observations are folded into the occurrence of their source and key,
and occurrences are acknowledged. A read and the write that depends on it are made again while
another writer is faster, as often as allowed. -/
namespace PlcMonitor

structure Transition where
  /-- Nothing when all is well and there is no occurrence. -/
  occurrence : Option Nat
  created : Bool
  state : AlarmState
  event : Option AlarmEvent

inductive LifecycleFault where
  | store (fault : StoreFault)
  | unknownOccurrence (id : Nat)
deriving DecidableEq, Repr

def LifecycleFault.message : LifecycleFault → String
  | .store fault => s!"Alarm store error: {fault.message}"
  | .unknownOccurrence id => s!"Not found: alarm occurrence {id}"

namespace Lifecycle

def defaultRetries : Nat := 5

def raise (seen : Observation) : Script (Except StoreFault Transition) :=
  let row := seen.toOccurrence
  .ask (.insert row (seen.event row none)) fun
    | .error fault => .done (.error fault)
    | .ok (row, event) => .done (.ok ⟨some row.id, true, row.state, some event⟩)

def revise (seen : Observation) (row : Occurrence) : Script (Except StoreFault Transition) :=
  let (row, event) := row.observe seen
  .ask (.update row event) fun
    | .error fault => .done (.error fault)
    | .ok (row, event) => .done (.ok ⟨some row.id, false, row.state, event⟩)

/-- One read and at most one write. All being well does not begin an occurrence. -/
def observeOnce (seen : Observation) : Script (Except StoreFault Transition) :=
  .ask (.find seen.source seen.key) fun
    | .error fault => .done (.error fault)
    | .ok none =>
      if seen.state.isActive then raise seen else .done (.ok ⟨none, false, .ok, none⟩)
    | .ok (some row) => revise seen row

def endorse (now : Instant) (identity : String) (note : Option String) (row : Occurrence) :
    Script (Except StoreFault Occurrence) :=
  .ask (.update (row.acknowledge now identity note) none) fun
    | .error fault => .done (.error fault)
    | .ok (row, _) => .done (.ok row)

def acknowledgeOnce (id : Nat) (now : Instant) (identity : String) (note : Option String) :
    Script (Except StoreFault Occurrence) :=
  .ask (.get id) fun
    | .error fault => .done (.error fault)
    | .ok none => .done (.error (.notFound id))
    | .ok (some row) => endorse now identity note row

/-- The attempts in turn: after each of the first `retries` conflicts the next one is made. -/
def retrying {α : Type} (attempt : Nat → Script (Except StoreFault α)) :
    Nat → Script (Except StoreFault α)
  | 0 => attempt 0
  | retries + 1 => (attempt 0).bind fun
    | .error (.conflict ..) => retrying (fun n => attempt (n + 1)) retries
    | result => .done result

/-- Folds an observation into the occurrence of its source and key, and announces the event if
the state changed. -/
def setState (retries : Nat) (observation : Observation) :
    Script (Except LifecycleFault Transition) :=
  (retrying (fun _ => observeOnce observation.normalized) retries).bind fun
    | .error fault => .done (.error (.store fault))
    | .ok transition =>
      match transition.event with
      | some event => .announce event (.done (.ok transition))
      | none => .done (.ok transition)

/-- `clock n` is the time that the attempt after `n` conflicts reads. -/
def acknowledge (retries : Nat) (id : Nat) (clock : Nat → Instant) (identity : String)
    (note : Option String) : Script (Except LifecycleFault Occurrence) :=
  (retrying (fun n => acknowledgeOnce id (clock n) identity note) retries).bind fun
    | .error (.notFound id) => .done (.error (.unknownOccurrence id))
    | .error fault => .done (.error (.store fault))
    | .ok row => .done (.ok row)

def query {α : Type} (request : StoreRequest) (view : request.Answer → α) :
    Script (Except LifecycleFault α) :=
  .ask request fun
    | .error fault => .done (.error (.store fault))
    | .ok answer => .done (.ok (view answer))

def activeNewestFirst : Script (Except LifecycleFault (List Occurrence)) :=
  query .active (Sorting.sort Occurrence.newerFirst)

def history (limit : Nat) : Script (Except LifecycleFault (List AlarmEvent)) :=
  query (.recentEvents limit) id

def eventsOf (row : Nat) : Script (Except LifecycleFault (List AlarmEvent)) :=
  query (.eventsOf row) id

end Lifecycle
end PlcMonitor
