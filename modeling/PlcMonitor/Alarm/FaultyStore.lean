import PlcMonitor.Alarm.Lifecycle

/-! A store that fails when told to, in front of one that does not. -/
namespace PlcMonitor

structure FaultyStore where
  inner : MemoryStore := {}
  writeFailure : Option String := none
  readFailure : Option String := none
  conflicts : Nat := 0
  /-- Observations of another writer, each of which comes just before a write. -/
  interference : List Observation := []

namespace FaultyStore

def interfere (store : FaultyStore) : FaultyStore :=
  match store.interference with
  | [] => store
  | seen :: rest =>
    let (_, inner, _) := (Lifecycle.setState Lifecycle.defaultRetries seen).run memoryStore
      store.inner
    { store with inner, interference := rest }

def pass (store : FaultyStore) (request : StoreRequest) :
    Except StoreFault request.Answer × FaultyStore :=
  let (answer, inner) := store.inner.respond request
  (answer, { store with inner })

def respond (store : FaultyStore) (request : StoreRequest) :
    Except StoreFault request.Answer × FaultyStore :=
  match request.written? with
  | none =>
    match store.readFailure with
    | some text => (.error (.backend text), store)
    | none => store.pass request
  | some row =>
    match store.writeFailure with
    | some text => (.error (.backend text), store)
    | none =>
      match store.conflicts with
      | conflicts + 1 => (.error (.conflict row.source row.key), { store with conflicts })
      | 0 => store.interfere.pass request

end FaultyStore

def faultyStore : AlarmStore FaultyStore := ⟨FaultyStore.respond⟩

end PlcMonitor
