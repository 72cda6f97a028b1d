import Mathlib.Data.List.Induction
import PlcMonitor.Proofs.Alarm.Store
import PlcMonitor.Proofs.Growing

/-! The store in memory by itself, whatever it is asked. An insertion is refused while its source
and key are taken; an update is held to the version of its row only. So rows stay apart by source
and key, and are found by them, just as long as no update changes them. -/
namespace PlcMonitor

namespace StoreRequest

/-- An update that is accepted and changes the source or the key of its row. -/
def Renames (store : MemoryStore) : StoreRequest → Prop
  | .update row _ => ∃ stored, store.rows.get? row.id = some stored ∧
      stored.version = row.version ∧ ¬(row.source = stored.source ∧ row.key = stored.key)
  | .find .. | .get _ | .insert .. | .active | .eventsOf _ | .recentEvents _ => False

theorem not_renames_of_read {store : MemoryStore} {request : StoreRequest}
    (read : request.written? = none) : ¬request.Renames store := by
  cases request with
  | insert | update => cases read
  | find | get | active | eventsOf | recentEvents => exact id

def writes (request : StoreRequest) (source key : String) : Bool :=
  request.written?.any fun row => row.source = source && row.key = key

end StoreRequest

namespace MemoryStore

/-- No two rows have one source and key, and what is found under a source and key is the row that
has them. -/
structure Keyed (store : MemoryStore) : Prop where
  unique : ∀ {i j a b}, store.rows.get? i = some a → store.rows.get? j = some b →
    a.source = b.source → a.key = b.key → i = j
  found : ∀ {source key row}, store.find? source key = some row ↔
    (∃ id, store.rows.get? id = some row) ∧ row.source = source ∧ row.key = key

theorem Indexed.keyed {store : MemoryStore} (h : store.Indexed) : store.Keyed where
  unique {i j a b} ha hb source key := by
    obtain rfl := h.id_eq ha
    obtain rfl := h.id_eq hb
    exact congrArg Occurrence.id (h.eq_of_names ha hb source key)
  found {source key row} := by
    refine h.find?_eq_some_iff.trans (and_congr_left fun _ => ⟨fun stored => ⟨_, stored⟩, ?_⟩)
    rintro ⟨id, stored⟩
    rwa [h.id_eq stored]

theorem respond_of_write (store : MemoryStore) {request : StoreRequest} {row : Occurrence}
    (write : request.written? = some row) :
    (∃ answer, (store.respond request).1 = .ok answer) ∨
    store.respond request = (.error (.conflict row.source row.key), store) ∨
    store.respond request = (.error (.notFound row.id), store) := by
  cases request with
  | insert row event =>
    cases write
    cases free : store.byKey.lookup (row.source, row.key) with
    | none => exact .inl ⟨_, congrArg Prod.fst (insert_free event free)⟩
    | some id => exact .inr (.inl (insert_taken event (by simp [free])))
  | update row event =>
    cases write
    cases found : store.rows.get? row.id with
    | none => exact .inr (.inr (by simp [respond, update, found]))
    | some stored =>
      by_cases current : stored.version = row.version
      · exact .inl ⟨_, congrArg Prod.fst (update_current event found current)⟩
      · exact .inr (.inl (update_stale event found current))
  | find | get | active | eventsOf | recentEvents => cases write

theorem respond_of_read (store : MemoryStore) {request : StoreRequest}
    (read : request.written? = none) : (store.respond request).2 = store := by
  cases request with
  | insert | update => cases read
  | find | get | active | eventsOf | recentEvents => rfl

theorem respond_of_failed {store : MemoryStore} {request : StoreRequest} {fault : StoreFault}
    (failed : (store.respond request).1 = .error fault) : (store.respond request).2 = store := by
  cases written : request.written? with
  | none => exact store.respond_of_read written
  | some row =>
    rcases store.respond_of_write written with ⟨answer, accepted⟩ | refused | missing
    · cases failed.symm.trans accepted
    · rw [refused]
    · rw [missing]

/-- All that a request can do to a store if it renames no row. -/
inductive Responded (store : MemoryStore) : StoreRequest → MemoryStore → Prop where
  | idle {request : StoreRequest} : Responded store request store
  | inserted {row : Occurrence} {event : AlarmEvent}
      (free : store.byKey.lookup (row.source, row.key) = none) :
      Responded store (.insert row event) (store.insert row event).2
  | updated {row stored : Occurrence} {event : Option AlarmEvent}
      (found : store.rows.get? row.id = some stored) (current : stored.version = row.version)
      (source : row.source = stored.source) (key : row.key = stored.key) :
      Responded store (.update row event) (store.update row event).2

theorem responded {store : MemoryStore} {request : StoreRequest}
    (keeps : ¬request.Renames store) : Responded store request (store.respond request).2 := by
  cases request with
  | insert row event =>
    change Responded store _ (store.insert row event).2
    cases free : store.byKey.lookup (row.source, row.key) with
    | none => exact .inserted free
    | some id =>
      rw [insert_taken event (by simp [free])]
      exact .idle
  | update row event =>
    change Responded store _ (store.update row event).2
    cases found : store.rows.get? row.id with
    | none =>
      rw [show store.update row event = (.error (.notFound row.id), store) by simp [update, found]]
      exact .idle
    | some stored =>
      by_cases current : stored.version = row.version
      · obtain ⟨source, key⟩ : row.source = stored.source ∧ row.key = stored.key :=
          not_not.mp fun renamed => keeps ⟨stored, found, current, renamed⟩
        exact .updated found current source key
      · rw [update_stale event found current]
        exact .idle
  | find | get | active | eventsOf | recentEvents => exact .idle

section Kept
variable {store next : MemoryStore} (h : store.Indexed) {request : StoreRequest}
  (responded : Responded store request next)
include h responded

theorem Responded.indexed : next.Indexed := by
  cases responded with
  | idle => exact h
  | inserted free => exact h.insert _ free
  | updated found current source key => exact h.update _ found current source key

theorem Responded.named {id : Nat} {row : Occurrence} (found : store.rows.get? id = some row) :
    ∃ later, next.rows.get? id = some later ∧ later.source = row.source ∧ later.key = row.key := by
  cases responded with
  | idle => exact ⟨row, found, rfl, rfl⟩
  | inserted free =>
    have used : id ≠ store.lastRow + 1 := fun he => by have := h.id_le found; omega
    rw [insert_free _ free]
    exact ⟨row, (Table.get?_insert_of_ne _ _ used).trans found, rfl, rfl⟩
  | @updated written stored event hstored current source key =>
    rw [update_current event hstored current]
    by_cases same : id = written.id
    · subst same
      obtain rfl : stored = row := Option.some.inj (hstored.symm.trans found)
      exact ⟨_, Table.get?_insert_self _ _ _, source, key⟩
    · exact ⟨row, (Table.get?_insert_of_ne _ _ same).trans found, rfl, rfl⟩

/-- What is found under other names than those of a row that is written stays as it is. -/
theorem Responded.find?_of_not_writes {source key : String}
    (elsewhere : request.writes source key = false) :
    next.find? source key = store.find? source key := by
  cases responded with
  | idle => rfl
  | @inserted row event free =>
    rw [h.find?_insert event free, if_neg]
    simpa [StoreRequest.writes, StoreRequest.written?] using elsewhere
  | @updated row stored event found current same_source same_key =>
    rw [h.find?_update event found current same_source same_key, if_neg]
    simpa [StoreRequest.writes, StoreRequest.written?] using elsewhere

end Kept

/-- The index has the row under its old source and key, if at all. -/
theorem Indexed.not_keyed_of_renames {store : MemoryStore} (h : store.Indexed)
    {request : StoreRequest} (renames : request.Renames store) :
    ¬(store.respond request).2.Keyed := by
  cases request with
  | update row event =>
    obtain ⟨stored, found, current, renamed⟩ := renames
    change ¬(store.update row event).2.Keyed
    rw [update_current event found current]
    intro keyed
    have written := Table.get?_insert_self store.rows row.id { row with version := row.version + 1 }
    have indexed := keyed.found.mpr ⟨⟨row.id, written⟩, rfl, rfl⟩
    obtain ⟨id, named, -⟩ := Option.bind_eq_some_iff.mp indexed
    obtain ⟨old, hold, source, key⟩ := (h.agree _ _ id).mp named
    by_cases same : id = row.id
    · subst same
      obtain rfl : stored = old := Option.some.inj (found.symm.trans hold)
      exact renamed ⟨source.symm, key.symm⟩
    · -- another row has the new source and key
      have kept := (Table.get?_insert_of_ne store.rows
        { row with version := row.version + 1 } same).trans hold
      exact same (keyed.unique kept written source key)
  | find | get | insert | active | eventsOf | recentEvents => exact renames.elim

def after (requests : List StoreRequest) : MemoryStore :=
  requests.foldl (fun store request => (store.respond request).2) {}

theorem after_concat (requests : List StoreRequest) (request : StoreRequest) :
    after (requests ++ [request]) = ((after requests).respond request).2 := List.foldl_append

/-- None of the requests renames a row. -/
def KeepsNames (requests : List StoreRequest) : Prop :=
  ∀ made request, made ++ [request] <+: requests → ¬request.Renames (after made)

theorem indexed_after {requests : List StoreRequest} (keeps : KeepsNames requests) :
    (after requests).Indexed := by
  induction requests using List.reverseRecOn with
  | nil => exact indexed_empty
  | append_singleton requests request ih =>
    obtain ⟨earlier, last⟩ := forall_concat_prefix_iff.mp keeps
    rw [after_concat]
    exact (responded last).indexed (ih earlier)

/-- Whatever a new store is asked, its rows are apart by source and key and found by them after
every request, if and only if no update that was accepted has changed them. -/
theorem keyed_iff_keepsNames (requests : List StoreRequest) :
    (∀ made, made <+: requests → (after made).Keyed) ↔ KeepsNames requests := by
  refine ⟨fun keyed => ?_, fun keeps made begins =>
    (indexed_after fun before request within => keeps before request (within.trans begins)).keyed⟩
  induction requests using List.reverseRecOn with
  | nil =>
    intro made request begins
    simp at begins
  | append_singleton requests request ih =>
    have earlier := ih fun made begins => keyed made (begins.trans (List.prefix_append _ _))
    refine forall_concat_prefix_iff.mpr ⟨earlier, fun renames => ?_⟩
    refine (indexed_after earlier).not_keyed_of_renames renames ?_
    rw [← after_concat]
    exact keyed _ List.prefix_rfl

/-- A pump is inserted as P1 and updated as P2. -/
def renamedPump : List StoreRequest :=
  let seen : Observation :=
    { source := "engine", key := "P1", state := .alarm, timestamp := ⟨0, 0⟩ }
  let row := seen.toOccurrence
  [.insert row (seen.event row none), .update { row with id := 1, key := "P2", version := 1 } none]

theorem renamedPump_not_found : ¬∀ requests : List StoreRequest, (after requests).Keyed := by
  intro claimed
  have found := (claimed renamedPump).found.mpr ⟨⟨1, rfl⟩, rfl, rfl⟩
  exact absurd (congrArg Option.isSome found) (by decide)

end MemoryStore
end PlcMonitor
