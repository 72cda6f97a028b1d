import Mathlib.Data.List.Induction
import PlcMonitor.Proofs.Alarm.Chronicle

/-! What is on file for a source and key is a function of what was observed of it: the row sums up
the observations from the first active one on, and its events are their changes of state. -/
namespace PlcMonitor

namespace Observation
variable {β : Type}

/-- The last of the observations `first` and `later`. -/
def latest (first : Observation) (later : List Observation) : Observation := later.getLastD first

@[simp] theorem latest_nil (first : Observation) : latest first [] = first := rfl

theorem latest_cons (first next : Observation) (later : List Observation) :
    latest first (next :: later) = latest next later :=
  List.getLastD_cons

@[simp] theorem latest_concat (first : Observation) (later : List Observation)
    (seen : Observation) : latest first (later ++ [seen]) = seen :=
  List.getLastD_concat

/-- What is brought by the last observation that brings any. -/
def lastBrought (brings : Observation → Option β) (seen : List Observation) : Option β :=
  (seen.filterMap brings).getLast?

@[simp] theorem lastBrought_singleton (brings : Observation → Option β) (seen : Observation) :
    lastBrought brings [seen] = brings seen := by
  unfold lastBrought
  cases h : brings seen <;> simp [h]

theorem lastBrought_concat (brings : Observation → Option β) (first : Observation)
    (later : List Observation) (seen : Observation) :
    lastBrought brings (first :: (later ++ [seen])) =
      (brings seen).or (lastBrought brings (first :: later)) := by
  unfold lastBrought
  rw [← List.cons_append, List.filterMap_append, List.getLast?_append]
  exact congrArg (Option.or · _) (lastBrought_singleton brings seen)

def message? (seen : Observation) : Option String :=
  if seen.message = "" then none else some seen.message

/-- Observations in a row between which the state changes. -/
def changes (seen : List Observation) : List (Observation × Observation) :=
  (seen.zip seen.tail).filter fun (before, after) => before.state ≠ after.state

theorem zip_tail_concat (first : Observation) (later : List Observation) (seen : Observation) :
    (first :: (later ++ [seen])).zip (later ++ [seen]) =
      (first :: later).zip later ++ [(latest first later, seen)] := by
  induction later generalizing first with
  | nil => rfl
  | cons next later ih =>
    rw [latest_cons]
    exact congrArg ((first, next) :: ·) (ih next)

theorem changes_concat (first : Observation) (later : List Observation) (seen : Observation) :
    changes (first :: (later ++ [seen])) = changes (first :: later) ++
      if (latest first later).state = seen.state then [] else [(latest first later, seen)] := by
  simp only [changes, List.tail_cons, zip_tail_concat, List.filter_append]
  split <;> rename_i h <;> simp [h]

/-- When the state last became `ok`. -/
def lastCleared (seen : List Observation) : Option Instant :=
  ((changes seen).filter (·.2.state = .ok)).getLast?.map (·.2.timestamp)

theorem lastCleared_concat (first : Observation) (later : List Observation) (seen : Observation)
    (cleared : seen.state = .ok) : lastCleared (first :: (later ++ [seen])) =
      if (latest first later).state = seen.state then lastCleared (first :: later)
      else some seen.timestamp := by
  unfold lastCleared
  rw [changes_concat]
  split <;> simp [cleared]

theorem notes_normalized (seen : Observation) : seen.normalized.notes = seen.notes := by
  unfold normalized
  rfl

/-- The observations that are filed under a source and key, as they are filed. -/
def filedUnder (source key : String) (seen : List Observation) : List Observation :=
  (seen.map normalized).filter fun filed => filed.source = source ∧ filed.key = key

theorem filedUnder_concat (source key : String) (earlier : List Observation)
    (seen : Observation) :
    filedUnder source key (earlier ++ [seen]) = filedUnder source key earlier ++
      if seen.normalized.source = source ∧ seen.normalized.key = key then [seen.normalized]
      else [] := by
  simp only [filedUnder, List.map_append, List.filter_append]
  split <;> rename_i h <;> simp [h]

/-- What an observation tells the log when it comes after the state `previous`. -/
def gist (seen : Observation) (previous : Option AlarmState) :
    Option AlarmState × AlarmState × Instant × Severity × Option Float :=
  (previous, seen.state, seen.timestamp, seen.severity, seen.value)

/-- What observations tell the log: how they begin, and each change. -/
def course (first : Observation) (later : List Observation) :
    List (Option AlarmState × AlarmState × Instant × Severity × Option Float) :=
  first.gist none ::
    (changes (first :: later)).map fun (before, after) => after.gist (some before.state)

theorem course_concat (first : Observation) (later : List Observation) (seen : Observation) :
    course first (later ++ [seen]) = course first later ++
      if (latest first later).state = seen.state then []
      else [seen.gist (some (latest first later).state)] := by
  unfold course
  rw [changes_concat]
  split <;> simp

end Observation

open Observation

/-- What an event says of the change that it stands for. -/
def AlarmEvent.gist (event : AlarmEvent) :
    Option AlarmState × AlarmState × Instant × Severity × Option Float :=
  (event.previous, event.state, event.timestamp, event.severity, event.value)

namespace Occurrence

/-- The row that the observations `first` and `later` come to: the first of them says since when,
the last one how things are, and what some leave out is as the last one that brings it says. -/
structure SumsUp (row : Occurrence) (first : Observation) (later : List Observation) : Prop where
  firstSeenAt : row.firstSeenAt = first.timestamp
  lastSeenAt : row.lastSeenAt = (latest first later).timestamp
  state : row.state = (latest first later).state
  isActive : row.isActive = (latest first later).state.isActive
  value : row.value = (latest first later).value
  severity : row.severity = (latest first later).severity
  warningThreshold : row.warningThreshold = (latest first later).warningThreshold
  alarmThreshold : row.alarmThreshold = (latest first later).alarmThreshold
  message : row.message = (lastBrought message? (first :: later)).getD ""
  rule : row.rule = lastBrought (·.rule) (first :: later)
  tag : row.tag = lastBrought (·.tag) (first :: later)
  notes : ∀ name, row.notes.get? name = lastBrought (·.notes.get? name) (first :: later)
  ascending : row.notes.Ascending
  clearedAt : row.clearedAt =
    if (latest first later).state = .ok then lastCleared (first :: later) else none

theorem sumsUp_toOccurrence {seen : Observation} (active : seen.state ≠ .ok)
    (ascending : seen.notes.Ascending) (id version : Nat) :
    SumsUp { seen.toOccurrence with id, version } seen [] where
  firstSeenAt := rfl
  lastSeenAt := rfl
  state := rfl
  isActive := ((AlarmState.isActive_iff _).mpr active).symm
  value := rfl
  severity := rfl
  warningThreshold := rfl
  alarmThreshold := rfl
  message := by
    by_cases blank : seen.message = "" <;> simp [message?, blank, Observation.toOccurrence]
  rule := (lastBrought_singleton (·.rule) seen).symm
  tag := (lastBrought_singleton (·.tag) seen).symm
  notes name := (lastBrought_singleton (·.notes.get? name) seen).symm
  ascending := ascending
  clearedAt := (if_neg active).symm

theorem observe_fst {row : Occurrence} (flag : row.isActive = row.state.isActive)
    (seen : Observation) :
    (row.observe seen).1 =
      { row.refresh seen with
        state := seen.state
        isActive := seen.state.isActive
        clearedAt :=
          if row.state = seen.state then row.clearedAt
          else if seen.state.isActive then none else some seen.timestamp } := by
  by_cases same : row.state = seen.state
  · simp only [Occurrence.observe, same, if_true]
    rw [← same, ← flag]
    rfl
  · simp only [Occurrence.observe, same, if_false]
    rfl

section Revising
variable {row : Occurrence} {first : Observation} {later : List Observation}
  (h : row.SumsUp first later) (seen : Observation)
include h

theorem SumsUp.observe (ascending : seen.notes.Ascending) (version : Nat) :
    SumsUp { (row.observe seen).1 with version } first (later ++ [seen]) := by
  have flag : row.isActive = row.state.isActive := by rw [h.isActive, h.state]
  rw [observe_fst flag]
  refine {
    firstSeenAt := h.firstSeenAt
    lastSeenAt := ?lastSeenAt
    state := ?state
    isActive := ?isActive
    value := ?value
    severity := ?severity
    warningThreshold := ?warningThreshold
    alarmThreshold := ?alarmThreshold
    message := ?message
    rule := ?rule
    tag := ?tag
    notes := ?notes
    ascending := Table.ascending_union h.ascending seen.notes
    clearedAt := ?clearedAt }
  case message =>
    rw [lastBrought_concat]
    by_cases blank : seen.message = "" <;> simp [refresh, message?, blank, h.message]
  case rule =>
    rw [lastBrought_concat, ← h.rule]
    exact Option.orElse_eq_or
  case tag =>
    rw [lastBrought_concat, ← h.tag]
    exact Option.orElse_eq_or
  case notes =>
    intro name
    rw [lastBrought_concat, ← h.notes]
    exact Table.get?_union row.notes ascending name
  case clearedAt =>
    have before : row.clearedAt = if row.state = .ok then lastCleared (first :: later) else none :=
      h.state ▸ h.clearedAt
    rw [latest_concat]
    dsimp only
    by_cases cleared : seen.state = .ok
    · rw [if_pos cleared, lastCleared_concat _ _ _ cleared, ← h.state, before, cleared]
      split <;> rfl
    · have active := (AlarmState.isActive_iff _).mpr cleared
      rw [if_neg cleared, active, before]
      split
      · rename_i same
        exact if_neg (same ▸ cleared)
      · rfl
  all_goals
    rw [latest_concat]
    try rfl

theorem SumsUp.gist_event (store : MemoryStore) (id : Nat) :
    course first later ++
        (((row.observe seen).2.map (store.filed id)).toList.map AlarmEvent.gist) =
      course first (later ++ [seen]) := by
  rw [course_concat, ← h.state]
  by_cases same : row.state = seen.state
  · simp [Occurrence.observe, same]
  · simp only [Occurrence.observe, same, if_false]
    rfl

end Revising

end Occurrence

namespace MemoryStore
variable {store : MemoryStore}

theorem eventsOf_insert {row : Occurrence} (event : AlarmEvent)
    (free : store.byKey.lookup (row.source, row.key) = none) (id : Nat) :
    (store.insert row event).2.eventsOf id = store.eventsOf id ++
      if id = store.lastRow + 1 then [store.filed (store.lastRow + 1) event] else [] := by
  rw [insert_free event free]
  exact eventsOf_append rfl (filed_owner store (some event) (store.lastRow + 1)) id

theorem eventsOf_update {stored row : Occurrence} (event : Option AlarmEvent)
    (found : store.rows.get? row.id = some stored) (current : stored.version = row.version)
    (id : Nat) :
    (store.update row event).2.eventsOf id = store.eventsOf id ++
      if id = row.id then (event.map (store.filed row.id)).toList else [] := by
  rw [update_current event found current]
  exact eventsOf_append rfl (filed_owner store event row.id) id

/-- What is on file for a source and key under which `seen` has been filed. -/
inductive OnFile (store : MemoryStore) (source key : String) (seen : List Observation) : Prop where
  | nothing (calm : ∀ filed ∈ seen, filed.state = .ok) (absent : store.find? source key = none)
  | row {calm : List Observation} {first : Observation} {later : List Observation}
      {row : Occurrence} (split : seen = calm ++ first :: later)
      (ok : ∀ filed ∈ calm, filed.state = .ok) (active : first.state ≠ .ok)
      (found : store.find? source key = some row) (sums : row.SumsUp first later)
      (log : (store.eventsOf row.id).map AlarmEvent.gist = course first later)

/-- Under a source and key, `next` has the row and the events that `store` has. -/
structure SameOn (store next : MemoryStore) (source key : String) : Prop where
  find : next.find? source key = store.find? source key
  log : ∀ row, store.find? source key = some row → next.eventsOf row.id = store.eventsOf row.id

/-- A write for other names leaves the row and its events alone. -/
theorem WellKept.sameOn_observe (h : store.WellKept) {source key : String} {filed : Observation}
    (other : ¬(filed.source = source ∧ filed.key = key)) :
    SameOn store (store.observe filed) source key := by
  unfold MemoryStore.observe
  split
  · rename_i stored found
    obtain ⟨found, same_source, same_key⟩ := h.find?_eq_some_iff.mp found
    have revises := stored.observe_revises filed
    generalize stored.observe filed = next at revises
    obtain ⟨row, event⟩ := next
    dsimp only at revises ⊢
    have found : store.rows.get? row.id = some stored := revises.id ▸ found
    have current := revises.version.symm
    have elsewhere : ¬(row.source = source ∧ row.key = key) := by
      rwa [revises.source, revises.key, same_source, same_key]
    refine ⟨?_, fun own hown => ?_⟩
    · rw [h.find?_update event found current revises.source revises.key, if_neg elsewhere]
    · obtain ⟨hown, own_source, own_key⟩ := h.find?_eq_some_iff.mp hown
      rw [eventsOf_update event found current, if_neg, List.append_nil]
      intro same
      obtain rfl : own = stored := Option.some.inj (hown.symm.trans (same ▸ found))
      exact other ⟨same_source.symm.trans own_source, same_key.symm.trans own_key⟩
  · rename_i absent
    split
    · have free : store.byKey.lookup (filed.toOccurrence.source, filed.toOccurrence.key) = none :=
        h.find?_eq_none_iff.mp absent
      refine ⟨?_, fun own hown => ?_⟩
      · exact (h.find?_insert _ free source key).trans (if_neg other)
      · rw [eventsOf_insert _ free, if_neg, List.append_nil]
        have := h.id_le (h.find?_eq_some_iff.mp hown).1
        omega
    · exact ⟨rfl, fun _ _ => rfl⟩

theorem OnFile.of_same {next : MemoryStore} {source key : String} {seen : List Observation}
    (onFile : OnFile store source key seen) (same : SameOn store next source key) :
    OnFile next source key seen := by
  cases onFile with
  | nothing calm absent => exact .nothing calm (same.find.trans absent)
  | @row _ _ _ row split ok active found sums course =>
    exact .row split ok active (same.find.trans found) sums ((same.log row found).symm ▸ course)

section Observing
variable (h : store.WellKept) {source key : String} {seen : List Observation}
  (onFile : OnFile store source key seen) {filed : Observation}
include h onFile

theorem OnFile.observe (names : filed.source = source ∧ filed.key = key)
    (ascending : filed.notes.Ascending) :
    OnFile (store.observe filed) source key (seen ++ [filed]) := by
  obtain ⟨rfl, rfl⟩ := names
  unfold MemoryStore.observe
  cases onFile with
  | nothing calm absent =>
    rw [absent]
    dsimp only
    split
    · rename_i active
      have active := (AlarmState.isActive_iff _).mp active
      have free : store.byKey.lookup (filed.toOccurrence.source, filed.toOccurrence.key) = none :=
        h.find?_eq_none_iff.mp absent
      have sums : (store.numbered filed.toOccurrence).SumsUp filed [] :=
        Occurrence.sumsUp_toOccurrence active ascending _ _
      refine .row rfl calm active ?_ sums ?_
      · exact (h.find?_insert _ free _ _).trans (if_pos ⟨rfl, rfl⟩)
      · have course := eventsOf_insert (filed.event filed.toOccurrence none) free
          (store.lastRow + 1)
        rw [h.eventsOf_unused h.unused, if_pos rfl] at course
        exact congrArg (List.map AlarmEvent.gist) course
    · rename_i inactive
      have ok : filed.state = .ok := by simpa using inactive
      exact .nothing (List.forall_mem_append.mpr ⟨calm, List.forall_mem_singleton.mpr ok⟩) absent
  | @row calm first later stored split ok active found sums log =>
    rw [found]
    dsimp only
    obtain ⟨found, same_source, same_key⟩ := h.find?_eq_some_iff.mp found
    have revises := stored.observe_revises filed
    have current := revises.version.symm
    have found : store.rows.get? (stored.observe filed).1.id = some stored := revises.id ▸ found
    have split : seen ++ [filed] = calm ++ first :: (later ++ [filed]) := by
      simp [split]
    have next := sums.observe filed ascending ((stored.observe filed).1.version + 1)
    refine .row split ok active ?_ next ?_
    · rw [h.find?_update _ found current revises.source revises.key, if_pos]
      exact ⟨revises.source.trans same_source, revises.key.trans same_key⟩
    · rw [eventsOf_update _ found current, if_pos rfl, List.map_append, revises.id, log]
      exact sums.gist_event filed store stored.id

end Observing

/-- `row` is the row of a source and key, and there is no other. -/
structure OnlyRow (store : MemoryStore) (source key : String) (row : Occurrence) : Prop where
  stored : store.rows.get? row.id = some row
  source_eq : row.source = source
  key_eq : row.key = key
  only : ∀ id other, store.rows.get? id = some other → other.source = source → other.key = key →
    other = row

/-- Neither a row nor an event has the source and key. -/
structure Untold (store : MemoryStore) (source key : String) : Prop where
  noRow : ∀ id row, store.rows.get? id = some row → ¬(row.source = source ∧ row.key = key)
  noEvent : ∀ event ∈ store.events, ¬(event.source = source ∧ event.key = key)

section Reading
variable {store : MemoryStore} (h : store.WellKept) {source key : String}
include h

theorem WellKept.onlyRow {row : Occurrence} (found : store.find? source key = some row) :
    store.OnlyRow source key row := by
  obtain ⟨stored, rfl, rfl⟩ := h.find?_eq_some_iff.mp found
  refine ⟨stored, rfl, rfl, fun id other hother source key => ?_⟩
  exact h.unique (h.id_eq hother ▸ hother) stored source key

theorem WellKept.untold (absent : store.find? source key = none) : store.Untold source key := by
  have noRow : ∀ id row, store.rows.get? id = some row →
      ¬(row.source = source ∧ row.key = key) := by
    rintro id row stored names
    have found := h.find?_eq_some_iff.mpr ⟨h.id_eq stored ▸ stored, names⟩
    rw [absent] at found
    cases found
  refine ⟨noRow, fun event hevent ⟨source, key⟩ => ?_⟩
  obtain ⟨row, stored, same_source, same_key⟩ := h.owned event hevent
  exact noRow _ row stored ⟨same_source.symm.trans source, same_key.symm.trans key⟩

end Reading

end MemoryStore

open MemoryStore

theorem serially_onFile (retries : Nat) (seen : List Observation)
    (maps : ∀ observation ∈ seen, observation.notes.Ascending) (source key : String) :
    OnFile (serially retries (seen.map Call.observe)) source key (filedUnder source key seen) := by
  induction seen using List.reverseRecOn with
  | nil => exact .nothing (List.forall_mem_nil _) rfl
  | append_singleton earlier observation ih =>
    obtain ⟨maps, ascending⟩ := List.forall_mem_append.mp maps
    have ascending : observation.normalized.notes.Ascending := by
      rw [notes_normalized]
      exact ascending observation (List.mem_singleton_self _)
    have kept := serially_wellKept retries (earlier.map Call.observe)
    rw [List.map_append, List.map_singleton, serially_concat, Call.run_script kept.toIndexed,
      filedUnder_concat]
    split
    · rename_i names
      exact (ih maps).observe kept names ascending
    · rename_i other
      rw [List.append_nil]
      exact (ih maps).of_same (kept.sameOn_observe other)

theorem run_observeOnce_ok {store : MemoryStore} (h : store.Indexed) (filed : Observation) :
    ∃ transition, ((Lifecycle.observeOnce filed).run memoryStore store).1 = .ok transition := by
  simp only [Lifecycle.observeOnce, Script.run, memoryStore, respond]
  cases found : store.find? filed.source filed.key with
  | none =>
    dsimp only
    split
    · have free : store.byKey.lookup (filed.toOccurrence.source, filed.toOccurrence.key) = none :=
        h.find?_eq_none_iff.mp found
      simp only [Lifecycle.raise, Script.run, respond, insert_free _ free]
      exact ⟨_, rfl⟩
    · exact ⟨_, rfl⟩
  | some row =>
    obtain ⟨stored, -⟩ := h.find?_eq_some_iff.mp found
    have accepted := update_accepted stored (row.observe_revises filed)
    simp only [Lifecycle.revise, Script.run, respond]
    rw [accepted]
    exact ⟨_, rfl⟩

theorem run_setState_ok {store : MemoryStore} (h : store.Indexed) (retries : Nat)
    (seen : Observation) :
    ∃ transition, ((Lifecycle.setState retries seen).run memoryStore store).1 = .ok transition := by
  obtain ⟨transition, taken⟩ := run_observeOnce_ok h seen.normalized
  obtain ⟨result, attempted, won⟩ := Call.run_attempt h (.observe seen) 0
  obtain rfl : .ok transition = result := taken.symm.trans (congrArg Prod.fst attempted)
  exact ⟨transition, congrArg Prod.fst (Call.run_script_won won attempted retries)⟩

theorem dropWhile_calm {calm : List Observation} (ok : ∀ filed ∈ calm, filed.state = .ok)
    {first : Observation} (active : first.state ≠ .ok) (later : List Observation) :
    (calm ++ first :: later).dropWhile (·.state = .ok) = first :: later := by
  rw [List.dropWhile_append_of_pos (by simpa using ok),
    List.dropWhile_cons_of_neg (by simpa using active)]

/-- Observations one after another are all taken. Of a source and key for which all was well there
is neither a row nor an event; any other has one row, which sums up what was observed from the
first active observation on, and the events of the row are the course of these observations. -/
theorem serially_course (retries : Nat) (seen : List Observation)
    (maps : ∀ observation ∈ seen, observation.notes.Ascending) :
    (∀ (earlier : List Observation) observation later, seen = earlier ++ observation :: later →
      ∃ transition, ((Lifecycle.setState retries observation).run memoryStore
        (serially retries (earlier.map Call.observe))).1 = .ok transition) ∧
    ∀ source key,
      ((∀ filed ∈ filedUnder source key seen, filed.state = .ok) →
        (serially retries (seen.map Call.observe)).Untold source key) ∧
      ∀ calm first later, filedUnder source key seen = calm ++ first :: later →
        (∀ filed ∈ calm, filed.state = .ok) → first.state ≠ .ok →
        ∃ row, (serially retries (seen.map Call.observe)).OnlyRow source key row ∧
          row.SumsUp first later ∧
          ((serially retries (seen.map Call.observe)).eventsOf row.id).map AlarmEvent.gist =
            course first later := by
  constructor
  · intro earlier observation later _
    have kept := serially_wellKept retries (earlier.map Call.observe)
    exact run_setState_ok kept.toIndexed retries observation
  intro source key
  have kept := serially_wellKept retries (seen.map Call.observe)
  have onFile := serially_onFile retries seen maps source key
  refine ⟨fun ok => ?_, fun calm first later split ok active => ?_⟩
  · cases onFile with
    | nothing calm absent => exact kept.untold absent
    | row split _ active found sums log =>
      exact absurd (ok _ (split ▸ List.mem_append_right _ List.mem_cons_self)) active
  · cases onFile with
    | nothing all absent =>
      exact absurd (all _ (split ▸ List.mem_append_right _ List.mem_cons_self)) active
    | @row calm' first' later' row split' ok' active' found sums log =>
      have same := (dropWhile_calm ok active later).symm.trans
        ((congrArg _ (split.symm.trans split')).trans (dropWhile_calm ok' active' later'))
      obtain ⟨rfl, rfl⟩ := List.cons.inj same
      exact ⟨row, kept.onlyRow found, sums, log⟩

namespace Observation

def pumpRuns : Observation :=
  { source := "plant", key := "pump", state := .ok, timestamp := ⟨0, 0⟩ }

def pumpWarns : Observation :=
  { pumpRuns with
    state := .warning, message := "slow", notes := ⟨[("by", "a"), ("shift", "2")]⟩
    timestamp := ⟨1, 0⟩ }

def pumpClears : Observation := { pumpRuns with timestamp := ⟨3, 0⟩ }

def pumpFails : Observation :=
  { pumpRuns with state := .alarm, notes := ⟨[("by", "b")]⟩, timestamp := ⟨4, 0⟩ }

/-- A pump that warns, clears and fails, under a name with blanks once, and a fan between. -/
def pumpSeen : List Observation :=
  [pumpRuns, { pumpWarns with source := " plant " },
   { pumpRuns with key := "fan", state := .alarm, timestamp := ⟨2, 0⟩ }, pumpClears, pumpFails]

end Observation

theorem serially_pumpSeen_course :
    (∀ observation ∈ pumpSeen, observation.notes.Ascending) ∧
      filedUnder "plant" "pump" pumpSeen = [pumpRuns] ++ pumpWarns :: [pumpClears, pumpFails] ∧
      ∃ row, (serially 5 (pumpSeen.map Call.observe)).OnlyRow "plant" "pump" row ∧
        row.SumsUp pumpWarns [pumpClears, pumpFails] ∧
        ((serially 5 (pumpSeen.map Call.observe)).eventsOf row.id).map AlarmEvent.gist =
          [(none, .warning, ⟨1, 0⟩, .warning, none), (some .warning, .ok, ⟨3, 0⟩, .warning, none),
           (some .ok, .alarm, ⟨4, 0⟩, .warning, none)] := by
  have maps : ∀ observation ∈ pumpSeen, observation.notes.Ascending := by
    simp only [pumpSeen, List.forall_mem_cons]
    exact ⟨.nil, List.pairwise_pair.mpr (by decide), .nil, .nil, List.pairwise_singleton _ _,
      List.forall_mem_nil _⟩
  have split : filedUnder "plant" "pump" pumpSeen =
      [pumpRuns] ++ pumpWarns :: [pumpClears, pumpFails] := by rfl
  have course := ((serially_course 5 pumpSeen maps).2 "plant" "pump").2 _ _ _ split
    (by decide) (by decide)
  exact ⟨maps, split, course⟩

end PlcMonitor
