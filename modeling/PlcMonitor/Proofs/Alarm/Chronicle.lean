import Mathlib.Data.List.Chain
import PlcMonitor.Proofs.Alarm.Serial

/-! What holds of rows, index and log in every state that calls reach: one row for each source and
key, flags that agree with the state, and a log that tells how each row came to its state. -/
namespace PlcMonitor

/-- The events of one row: it begins active, each event goes on from where the one before ended,
and the last leaves the row in `state`. -/
structure IsHistory (events : List AlarmEvent) (state : AlarmState) : Prop where
  first : ∃ event, events.head? = some event ∧ event.previous = none ∧ event.state ≠ .ok
  linked : events.IsChain fun a b => b.previous = some a.state ∧ b.previous ≠ some b.state
  last : events.getLast?.map (·.state) = some state

theorem isHistory_singleton {event : AlarmEvent} {state : AlarmState}
    (previous : event.previous = none) (active : state ≠ .ok) (reached : event.state = state) :
    IsHistory [event] state where
  first := ⟨event, rfl, previous, reached ▸ active⟩
  linked := .singleton event
  last := congrArg some reached

theorem IsHistory.concat {events : List AlarmEvent} {state next : AlarmState}
    (h : IsHistory events state) {event : AlarmEvent} (previous : event.previous = some state)
    (reached : event.state = next) (changed : next ≠ state) :
    IsHistory (events ++ [event]) next where
  first := by
    obtain ⟨begin, head, rest⟩ := h.first
    exact ⟨begin, by simp [List.head?_append, head], rest⟩
  linked := by
    refine List.isChain_append.mpr ⟨h.linked, .singleton event, ?_⟩
    intro before hbefore after hafter
    obtain rfl : event = after := by simpa using hafter
    have state_eq : before.state = state := by simpa [Option.mem_def.mp hbefore] using h.last
    rw [previous, reached, state_eq]
    exact ⟨rfl, fun same => changed (Option.some.inj same).symm⟩
  last := by simp [reached]

theorem IsHistory.revise {events : List AlarmEvent} {stored row : Occurrence}
    {event : Option AlarmEvent} (h : IsHistory events stored.state)
    (revises : stored.Revises row event) (store : MemoryStore) :
    IsHistory (events ++ (event.map (store.filed row.id)).toList) row.state := by
  cases event with
  | none =>
    rw [revises.unchanged rfl]
    simpa using h
  | some e =>
    obtain ⟨previous, reached, changed, -⟩ := revises.changed e rfl
    exact h.concat previous reached changed

namespace MemoryStore

/-- Rows, index and log as a lifecycle keeps them. -/
structure WellKept (store : MemoryStore) : Prop extends Indexed store where
  unique : ∀ {a b : Occurrence}, store.rows.get? a.id = some a → store.rows.get? b.id = some b →
    a.source = b.source → a.key = b.key → a = b
  proper : ∀ {id row}, store.rows.get? id = some row →
    Observation.Proper row.source ∧ Observation.Proper row.key
  consistent : ∀ {id row}, store.rows.get? id = some row → row.Consistent
  history : ∀ {id row}, store.rows.get? id = some row → IsHistory (store.eventsOf id) row.state
  increasing : store.events.Pairwise fun a b => a.id < b.id
  eventId_le : ∀ event ∈ store.events, event.id ≤ store.lastEvent
  owned : ∀ event ∈ store.events, ∃ row, store.rows.get? event.occurrence = some row ∧
    event.source = row.source ∧ event.key = row.key

theorem wellKept_empty : WellKept {} where
  toIndexed := indexed_empty
  unique ha := by simp at ha
  proper h := by simp at h
  consistent h := by simp at h
  history h := by simp at h
  increasing := .nil
  eventId_le := by simp
  owned := by simp

theorem filed_owner (store : MemoryStore) (event : Option AlarmEvent) (id : Nat) :
    ∀ e ∈ (event.map (store.filed id)).toList, e.occurrence = id := by
  cases event <;> simp [filed]

theorem eventsOf_append {store next : MemoryStore} {added : List AlarmEvent} {owner : Nat}
    (events : next.events = store.events ++ added) (owned : ∀ e ∈ added, e.occurrence = owner)
    (id : Nat) : next.eventsOf id = store.eventsOf id ++ if id = owner then added else [] := by
  unfold eventsOf
  rw [events, List.filter_append]
  congr 1
  split
  · rename_i here
    exact List.filter_eq_self.mpr fun e he => by simp [owned e he, here]
  · rename_i other
    exact List.filter_eq_nil_iff.mpr fun e he => by simp [owned e he, Ne.symm other]

section Log
variable {store : MemoryStore} (h : store.WellKept)
include h

theorem WellKept.increasing_filed (event : Option AlarmEvent) (id : Nat) :
    (store.events ++ (event.map (store.filed id)).toList).Pairwise fun a b => a.id < b.id := by
  refine List.pairwise_append.mpr ⟨h.increasing, by cases event <;> simp, ?_⟩
  intro old hold new hnew
  obtain ⟨e, -, rfl⟩ := by simpa using hnew
  exact Nat.lt_succ_of_le (h.eventId_le old hold)

theorem WellKept.eventId_le_filed (event : Option AlarmEvent) (id : Nat) :
    ∀ e ∈ store.events ++ (event.map (store.filed id)).toList,
      e.id ≤ store.lastEvent + event.toList.length := by
  intro e he
  rcases List.mem_append.mp he with old | new
  · exact Nat.le_add_right_of_le (h.eventId_le e old)
  · obtain ⟨e, rfl, rfl⟩ := by simpa using new
    exact Nat.le_refl _

theorem WellKept.owned_insert {id : Nat} {row : Occurrence}
    (same : ∀ old, store.rows.get? id = some old → row.source = old.source ∧ row.key = old.key) :
    ∀ event ∈ store.events, ∃ owner, (store.rows.insert id row).get? event.occurrence = some owner ∧
      event.source = owner.source ∧ event.key = owner.key := by
  intro event hevent
  obtain ⟨owner, found, source, key⟩ := h.owned event hevent
  by_cases here : event.occurrence = id
  · obtain ⟨source', key'⟩ := same owner (here ▸ found)
    exact ⟨row, by rw [here, Table.get?_insert_self], source'.symm ▸ source, key'.symm ▸ key⟩
  · exact ⟨owner, (Table.get?_insert_of_ne _ _ here).trans found, source, key⟩

theorem WellKept.eventsOf_unused {id : Nat} (unused : store.rows.get? id = none) :
    store.eventsOf id = [] := by
  refine List.filter_eq_nil_iff.mpr fun event hevent => ?_
  obtain ⟨row, found, -⟩ := h.owned event hevent
  simp only [decide_eq_true_eq]
  rintro rfl
  rw [unused] at found
  cases found

end Log

theorem WellKept.begin {store : MemoryStore} (h : store.WellKept) {row : Occurrence}
    {event : AlarmEvent} (begins : row.Begins event)
    (free : store.byKey.lookup (row.source, row.key) = none) :
    (store.insert row event).2.WellKept := by
  have indexed := h.toIndexed.insert event free
  rw [insert_free event free] at indexed ⊢
  refine {
    toIndexed := indexed
    unique := indexed.eq_of_names
    proper := ?proper
    consistent := ?consistent
    history := ?history
    increasing := h.increasing_filed (some event) _
    eventId_le := h.eventId_le_filed (some event) _
    owned := ?owned }
  case proper =>
    intro id r found
    rcases Table.get?_insert_eq_some found with ⟨rfl, rfl⟩ | ⟨-, old⟩
    · exact ⟨begins.properSource, begins.properKey⟩
    · exact h.proper old
  case consistent =>
    intro id r found
    rcases Table.get?_insert_eq_some found with ⟨rfl, rfl⟩ | ⟨-, old⟩
    · exact begins.consistent
    · exact h.consistent old
  case history =>
    intro id r found
    rw [eventsOf_append ?events (filed_owner store (some event) (store.lastRow + 1))]
    case events => rfl
    rcases Table.get?_insert_eq_some found with ⟨rfl, rfl⟩ | ⟨other, old⟩
    · rw [if_pos rfl, h.eventsOf_unused h.unused]
      exact isHistory_singleton begins.previous begins.active begins.state
    · rw [if_neg other, List.append_nil]
      exact h.history old
  case owned =>
    refine List.forall_mem_append.mpr ⟨h.owned_insert fun old found => ?_, ?_⟩
    · rw [h.unused] at found
      cases found
    · exact List.forall_mem_singleton.mpr
        ⟨_, Table.get?_insert_self _ _ _, begins.source, begins.key⟩

theorem WellKept.revise {store : MemoryStore} (h : store.WellKept) {stored row : Occurrence}
    {event : Option AlarmEvent} (found : store.rows.get? stored.id = some stored)
    (revises : stored.Revises row event) : (store.update row event).2.WellKept := by
  have found : store.rows.get? row.id = some stored := revises.id ▸ found
  have current : stored.version = row.version := revises.version.symm
  have indexed := h.toIndexed.update event found current revises.source revises.key
  rw [update_current event found current] at indexed ⊢
  generalize next_eq : { row with version := row.version + 1 } = next at indexed ⊢
  have source : next.source = stored.source := by rw [← next_eq, ← revises.source]
  have key : next.key = stored.key := by rw [← next_eq, ← revises.key]
  refine {
    toIndexed := indexed
    unique := indexed.eq_of_names
    proper := ?proper
    consistent := ?consistent
    history := ?history
    increasing := h.increasing_filed event _
    eventId_le := h.eventId_le_filed event _
    owned := ?owned }
  case proper =>
    intro id r hr
    rcases Table.get?_insert_eq_some hr with ⟨rfl, rfl⟩ | ⟨-, old⟩
    · rw [source, key]
      exact h.proper found
    · exact h.proper old
  case consistent =>
    intro id r hr
    rcases Table.get?_insert_eq_some hr with ⟨rfl, rfl⟩ | ⟨-, old⟩
    · subst next_eq
      exact revises.consistent (h.consistent found)
    · exact h.consistent old
  case history =>
    intro id r hr
    rw [eventsOf_append ?events (filed_owner store event row.id)]
    case events => rfl
    rcases Table.get?_insert_eq_some hr with ⟨rfl, rfl⟩ | ⟨other, old⟩
    · rw [if_pos rfl]
      subst next_eq
      exact (h.history found).revise revises store
    · rw [if_neg other, List.append_nil]
      exact h.history old
  case owned =>
    refine List.forall_mem_append.mpr ⟨h.owned_insert fun old hold => ?_, fun e he => ?_⟩
    · obtain rfl : stored = old := Option.some.inj (found.symm.trans hold)
      exact ⟨source, key⟩
    · obtain ⟨e, rfl, rfl⟩ := by simpa using he
      obtain ⟨-, -, -, names⟩ := revises.changed e rfl
      refine ⟨next, Table.get?_insert_self _ _ _, ?_⟩
      rwa [source, key]

end MemoryStore

theorem Change.wellKept {store next : MemoryStore} (change : Change store next)
    (h : store.WellKept) : next.WellKept := by
  cases change with
  | none => exact h
  | begin begins free => exact h.begin begins free
  | revise found revises => exact h.revise found revises

theorem serially_wellKept (retries : Nat) (calls : List Call) :
    (serially retries calls).WellKept := by
  refine List.foldlRecOn calls _ MemoryStore.wellKept_empty fun store h call _ => ?_
  rw [Call.run_script h.toIndexed]
  exact (call.effect_change h.toIndexed 0).wellKept h

/-- However the steps of any number of calls alternate. -/
theorem Session.run_wellKept (moves : List Move) : (run moves).store.WellKept := by
  rw [(simulated_run moves).serial 0]
  exact serially_wellKept 0 _

end PlcMonitor
