import PlcMonitor.Alarm.Occurrence

/-! Alarm stores: what one is asked, and the store in memory. -/
namespace PlcMonitor

inductive StoreFault where
  | conflict (source key : String)
  | notFound (id : Nat)
  | backend (text : String)
deriving DecidableEq, Repr

def StoreFault.message : StoreFault → String
  | .conflict source key => s!"Concurrent update on alarm ({source}, {key})"
  | .notFound id => s!"Alarm occurrence {id} not found"
  | .backend text => s!"Alarm store backend failure: {text}"

def StoreFault.isConflict : StoreFault → Bool
  | .conflict .. => true
  | _ => false

inductive StoreRequest where
  | find (source key : String)
  | get (id : Nat)
  | insert (row : Occurrence) (event : AlarmEvent)
  | update (row : Occurrence) (event : Option AlarmEvent)
  | active
  | eventsOf (id : Nat)
  | recentEvents (limit : Nat)

namespace StoreRequest

abbrev Answer : StoreRequest → Type
  | .find .. | .get _ => Option Occurrence
  | .insert .. => Occurrence × AlarmEvent
  | .update .. => Occurrence × Option AlarmEvent
  | .active => List Occurrence
  | .eventsOf _ | .recentEvents _ => List AlarmEvent

def written? : StoreRequest → Option Occurrence
  | .insert row _ | .update row _ => some row
  | _ => none

end StoreRequest

/-- A store with states in `σ`. Each call is one step. -/
structure AlarmStore (σ : Type) where
  respond : σ → (request : StoreRequest) → Except StoreFault request.Answer × σ

structure MemoryStore where
  rows : Table Nat Occurrence := Table.empty
  byKey : List ((String × String) × Nat) := []
  events : List AlarmEvent := []
  lastRow : Nat := 0
  lastEvent : Nat := 0

namespace MemoryStore

def find? (store : MemoryStore) (source key : String) : Option Occurrence :=
  (store.byKey.lookup (source, key)).bind store.rows.get?

def appendEvent (store : MemoryStore) (event : AlarmEvent) (row : Nat) :
    AlarmEvent × MemoryStore :=
  let filed := { event with id := store.lastEvent + 1, occurrence := row }
  (filed, { store with events := store.events ++ [filed], lastEvent := store.lastEvent + 1 })

/-- Refused while the source and key are taken. -/
def insert (store : MemoryStore) (row : Occurrence) (event : AlarmEvent) :
    Except StoreFault (Occurrence × AlarmEvent) × MemoryStore :=
  if (store.byKey.lookup (row.source, row.key)).isSome then
    (.error (.conflict row.source row.key), store)
  else
    let row := { row with id := store.lastRow + 1, version := 1 }
    let (event, store) := appendEvent
      { store with
        rows := store.rows.insert row.id row
        byKey := ((row.source, row.key), row.id) :: store.byKey
        lastRow := row.id } event row.id
    (.ok (row, event), store)

def appendOptional (store : MemoryStore) (event : Option AlarmEvent) (row : Nat) :
    Option AlarmEvent × MemoryStore :=
  match event with
  | none => (none, store)
  | some event =>
    let (filed, store) := store.appendEvent event row
    (some filed, store)

/-- Refused unless the row is the version that is stored. -/
def update (store : MemoryStore) (row : Occurrence) (event : Option AlarmEvent) :
    Except StoreFault (Occurrence × Option AlarmEvent) × MemoryStore :=
  match store.rows.get? row.id with
  | none => (.error (.notFound row.id), store)
  | some stored =>
    if stored.version ≠ row.version then (.error (.conflict row.source row.key), store)
    else
      let row := { row with version := row.version + 1 }
      let (event, store) :=
        appendOptional { store with rows := store.rows.insert row.id row } event row.id
      (.ok (row, event), store)

def active (store : MemoryStore) : List Occurrence :=
  (store.rows.entries.map (·.2)).filter (·.isActive)

def eventsOf (store : MemoryStore) (id : Nat) : List AlarmEvent :=
  store.events.filter (·.occurrence = id)

def recentEvents (store : MemoryStore) (limit : Nat) : List AlarmEvent :=
  store.events.drop (store.events.length - limit)

def respond (store : MemoryStore) :
    (request : StoreRequest) → Except StoreFault request.Answer × MemoryStore
  | .find source key => (.ok (store.find? source key), store)
  | .get id => (.ok (store.rows.get? id), store)
  | .insert row event => store.insert row event
  | .update row event => store.update row event
  | .active => (.ok store.active, store)
  | .eventsOf id => (.ok (store.eventsOf id), store)
  | .recentEvents limit => (.ok (store.recentEvents limit), store)

end MemoryStore

def memoryStore : AlarmStore MemoryStore := ⟨MemoryStore.respond⟩

end PlcMonitor
