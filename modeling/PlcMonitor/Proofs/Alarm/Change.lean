import PlcMonitor.Proofs.Alarm.Naming
import PlcMonitor.Proofs.Alarm.Store

/-! The writes that a lifecycle makes: a row begins with an event of its own, or is written again
in the version that is stored, with an event exactly when its state changes. -/
namespace PlcMonitor

namespace Occurrence

/-- The flag and the time of clearing say what the state says. -/
def Consistent (row : Occurrence) : Prop :=
  (row.isActive = true ↔ row.state ≠ .ok) ∧ (row.state ≠ .ok ↔ row.clearedAt = none)

/-- `row` may be stored for the first time, with `event`. -/
structure Begins (row : Occurrence) (event : AlarmEvent) : Prop where
  properSource : Observation.Proper row.source
  properKey : Observation.Proper row.key
  consistent : row.Consistent
  active : row.state ≠ .ok
  previous : event.previous = none
  state : event.state = row.state
  source : event.source = row.source
  key : event.key = row.key

/-- `row` may be stored over `stored`, with `event`. -/
structure Revises (stored row : Occurrence) (event : Option AlarmEvent) : Prop where
  id : row.id = stored.id
  version : row.version = stored.version
  source : row.source = stored.source
  key : row.key = stored.key
  consistent : stored.Consistent → row.Consistent
  unchanged : event = none → row.state = stored.state
  changed : ∀ e ∈ event, e.previous = some stored.state ∧ e.state = row.state ∧
    row.state ≠ stored.state ∧ e.source = stored.source ∧ e.key = stored.key

theorem begins_toOccurrence {seen : Observation} (source : Observation.Proper seen.source)
    (key : Observation.Proper seen.key) (active : seen.state.isActive = true) :
    seen.toOccurrence.Begins (seen.event seen.toOccurrence none) where
  properSource := source
  properKey := key
  consistent := by simpa [Consistent, Observation.toOccurrence] using active
  active := (AlarmState.isActive_iff _).mp active
  previous := rfl
  state := rfl
  source := rfl
  key := rfl

theorem observe_revises (row : Occurrence) (seen : Observation) :
    row.Revises (row.observe seen).1 (row.observe seen).2 := by
  by_cases same : row.state = seen.state
  · have quiet : row.observe seen = (row.refresh seen, none) := if_pos same
    rw [quiet]
    exact ⟨rfl, rfl, rfl, rfl, fun h => h, fun _ => rfl, by simp⟩
  · have loud : row.observe seen = ((row.refresh seen).changeState seen,
        some (seen.event ((row.refresh seen).changeState seen) (some row.state))) := if_neg same
    rw [loud]
    refine ⟨rfl, rfl, rfl, rfl, fun _ => ?_, by simp, ?_⟩
    · simp only [Consistent, changeState, AlarmState.isActive]
      by_cases ok : seen.state = .ok <;> simp [ok]
    · rintro e ⟨⟩
      exact ⟨rfl, rfl, fun h => same h.symm, rfl, rfl⟩

theorem acknowledge_revises (row : Occurrence) (now : Instant) (identity : String)
    (note : Option String) : row.Revises (row.acknowledge now identity note) none :=
  ⟨rfl, rfl, rfl, rfl, fun h => h, fun _ => rfl, by simp⟩

end Occurrence

open MemoryStore

/-- What one call of the lifecycle does to a store. -/
inductive Change (store : MemoryStore) : MemoryStore → Prop where
  | none : Change store store
  | begin {row : Occurrence} {event : AlarmEvent} (begins : row.Begins event)
      (free : store.byKey.lookup (row.source, row.key) = .none) :
      Change store (store.insert row event).2
  | revise {stored row : Occurrence} {event : Option AlarmEvent}
      (found : store.rows.get? stored.id = some stored) (revises : stored.Revises row event) :
      Change store (store.update row event).2

theorem Change.indexed {store next : MemoryStore} (change : Change store next)
    (h : store.Indexed) : next.Indexed := by
  cases change with
  | none => exact h
  | begin begins free => exact h.insert _ free
  | revise found revises =>
    exact h.update _ (revises.id ▸ found) revises.version.symm revises.source revises.key

/-- Every row is still there, unchanged or in a later version. -/
def Evolves (store next : MemoryStore) : Prop :=
  ∀ {id row}, store.rows.get? id = some row →
    ∃ row', next.rows.get? id = some row' ∧ (row' = row ∨ row.version < row'.version)

theorem Change.evolves {store next : MemoryStore} (change : Change store next)
    (h : store.Indexed) : Evolves store next := by
  intro id old found
  cases change with
  | none => exact ⟨old, found, .inl rfl⟩
  | @begin row event begins free =>
    rw [insert_free event free]
    have used : id ≠ store.lastRow + 1 := fun he => by have := h.id_le found; omega
    exact ⟨old, by rw [Table.get?_insert_of_ne _ _ used, found], .inl rfl⟩
  | @revise stored row event hstored revises =>
    have hstored' : store.rows.get? row.id = some stored := revises.id ▸ hstored
    rw [update_current event hstored' revises.version.symm]
    by_cases he : id = row.id
    · obtain rfl : old = stored := Option.some.inj (found.symm.trans (he ▸ hstored'))
      refine ⟨{ row with version := row.version + 1 }, by rw [he, Table.get?_insert_self], .inr ?_⟩
      simp [revises.version]
    · exact ⟨old, by rw [Table.get?_insert_of_ne _ _ he, found], .inl rfl⟩

/-- A copy of a row that was read from the store at some time. -/
def Held (store : MemoryStore) (row : Occurrence) : Prop :=
  ∃ stored, store.rows.get? row.id = some stored ∧ (stored = row ∨ row.version < stored.version)

theorem held_of_found {store : MemoryStore} {row : Occurrence}
    (found : store.rows.get? row.id = some row) : Held store row :=
  ⟨row, found, .inl rfl⟩

theorem Held.evolve {store next : MemoryStore} {row : Occurrence} (held : Held store row)
    (evolves : Evolves store next) : Held next row := by
  obtain ⟨stored, found, age⟩ := held
  obtain ⟨later, found', age'⟩ := evolves found
  refine ⟨later, found', ?_⟩
  rcases age with rfl | age <;> rcases age' with rfl | age'
  · exact .inl rfl
  · exact .inr age'
  · exact .inr age
  · exact .inr (Nat.lt_trans age age')

theorem update_accepted {store : MemoryStore} {stored row : Occurrence}
    {event : Option AlarmEvent} (found : store.rows.get? stored.id = some stored)
    (revises : stored.Revises row event) :
    store.update row event =
      (.ok ({ row with version := row.version + 1 }, event.map (store.filed row.id)),
        (store.update row event).2) := by
  rw [update_current event (revises.id ▸ found) revises.version.symm]

/-- The version check refuses every write of a copy that is no longer what is stored. -/
theorem Held.current_or_stale {store : MemoryStore} {copy : Occurrence} (held : Held store copy) :
    store.rows.get? copy.id = some copy ∨ ∀ {row : Occurrence} {event : Option AlarmEvent},
      copy.Revises row event →
        store.update row event = (.error (.conflict row.source row.key), store) := by
  obtain ⟨stored, found, rfl | older⟩ := held
  · exact .inl found
  · refine .inr fun revises => update_stale _ (revises.id ▸ found) ?_
    rw [revises.version]
    omega

end PlcMonitor
