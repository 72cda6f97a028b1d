import PlcMonitor.Alarm.Store

/-! Scripts: computations that call a store and announce events, one step at a time, so that the
steps of several may alternate. -/
namespace PlcMonitor

inductive Script (α : Type) where
  | done (result : α)
  | ask (request : StoreRequest) (next : Except StoreFault request.Answer → Script α)
  | announce (event : AlarmEvent) (rest : Script α)

namespace Script
variable {α β σ : Type}

def bind (script : Script α) (continuation : α → Script β) : Script β :=
  match script with
  | .done result => continuation result
  | .ask request next => .ask request fun answer => (next answer).bind continuation
  | .announce event rest => .announce event (rest.bind continuation)

/-- The steps of one script alone: its result, the state reached and the events announced. -/
def run (store : AlarmStore σ) : Script α → σ → α × σ × List AlarmEvent
  | .done result, state => (result, state, [])
  | .ask request next, state =>
    let (answer, state) := store.respond state request
    (next answer).run store state
  | .announce event rest, state =>
    let (result, state, events) := rest.run store state
    (result, state, event :: events)

@[simp] theorem run_done (store : AlarmStore σ) (result : α) (state : σ) :
    run store (.done result) state = (result, state, []) := rfl

theorem run_bind (store : AlarmStore σ) (script : Script α) (continuation : α → Script β)
    (state : σ) :
    (script.bind continuation).run store state =
      let (result, state, events) := script.run store state
      let (final, state, later) := (continuation result).run store state
      (final, state, events ++ later) := by
  induction script generalizing state with
  | done result => simp [bind]
  | ask request next ih => simp only [bind, run, ih]
  | announce event rest ih => simp [bind, run, ih]

end Script
end PlcMonitor
