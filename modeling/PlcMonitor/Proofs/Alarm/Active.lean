import PlcMonitor.Proofs.Alarm.Chronicle
import PlcMonitor.Proofs.Sorting

/-! The list of active alarms. No two rows share an id, so the order by the time they were last seen
and by id leaves nothing open, and the list is the same in whatever order the rows are gone
through. -/
namespace PlcMonitor

namespace Occurrence

theorem newerFirst_iff {a b : Occurrence} : a.newerFirst b = true ↔
    b.lastSeenAt.second < a.lastSeenAt.second ∨ a.lastSeenAt.second = b.lastSeenAt.second ∧
      (b.lastSeenAt.nano < a.lastSeenAt.nano ∨
        a.lastSeenAt.nano = b.lastSeenAt.nano ∧ b.id ≤ a.id) := by
  unfold newerFirst
  generalize a.lastSeenAt = here
  generalize b.lastSeenAt = there
  obtain ⟨second, nano⟩ := here
  obtain ⟨second', nano'⟩ := there
  simp only [Instant.before, Instant.mk.injEq, Bool.or_eq_true, Bool.and_eq_true,
    decide_eq_true_eq]
  omega

instance : Std.Total fun a b : Occurrence => a.newerFirst b = true := ⟨fun a b => by
  simp only [newerFirst_iff]
  omega⟩

instance : IsTrans Occurrence fun a b => a.newerFirst b = true := ⟨fun a b c => by
  simp only [newerFirst_iff]
  omega⟩

/-- Seen later, or at the same time and numbered later. -/
def Newer (a b : Occurrence) : Prop :=
  b.lastSeenAt.before a.lastSeenAt = true ∨ a.lastSeenAt = b.lastSeenAt ∧ b.id < a.id

theorem newer_of_newerFirst {a b : Occurrence} (h : a.newerFirst b = true) (other : a.id ≠ b.id) :
    a.Newer b := by
  simp only [newerFirst, Bool.or_eq_true, Bool.and_eq_true, decide_eq_true_eq] at h
  exact h.imp_right fun same => ⟨same.1, Nat.lt_of_le_of_ne same.2 other.symm⟩

theorem id_eq_of_newerFirst {a b : Occurrence} (h : a.newerFirst b = true)
    (h' : b.newerFirst a = true) : a.id = b.id := by
  rw [newerFirst_iff] at h h'
  omega

end Occurrence

namespace MemoryStore

def listed (store : MemoryStore) : List Occurrence := store.rows.entries.map (·.2)

section Rows
variable {store : MemoryStore} (h : store.Indexed)
include h

theorem Indexed.mem_listed {row : Occurrence} :
    row ∈ store.listed ↔ store.rows.get? row.id = some row := by
  rw [listed, List.mem_map]
  constructor
  · rintro ⟨⟨id, row⟩, hentry, rfl⟩
    have found := (Table.mem_entries_iff h.ascending).mp hentry
    rwa [← h.id_eq found] at found
  · exact fun found => ⟨(row.id, row), (Table.mem_entries_iff h.ascending).mpr found, rfl⟩

theorem Indexed.nodup_ids : (store.listed.map (·.id)).Nodup := by
  have ids : store.listed.map (·.id) = store.rows.entries.map (·.1) := by
    rw [listed, List.map_map]
    exact List.map_congr_left fun entry hentry =>
      h.id_eq ((Table.mem_entries_iff h.ascending).mp hentry)
  rw [ids]
  exact h.ascending.nodup

end Rows

theorem WellKept.mem_active {store : MemoryStore} (h : store.WellKept) {row : Occurrence} :
    row ∈ store.active ↔ store.rows.get? row.id = some row ∧ row.state ≠ .ok := by
  rw [active, List.mem_filter]
  refine (and_congr_left' h.toIndexed.mem_listed).trans (and_congr_right fun found => ?_)
  exact (h.consistent found).1

end MemoryStore

def shuffledStore (order : List Occurrence → List Occurrence) : AlarmStore MemoryStore where
  respond store
    | .active => (.ok ((order store.listed).filter (·.isActive)), store)
    | .find source key => store.respond (.find source key)
    | .get id => store.respond (.get id)
    | .insert row event => store.respond (.insert row event)
    | .update row event => store.respond (.update row event)
    | .eventsOf id => store.respond (.eventsOf id)
    | .recentEvents limit => store.respond (.recentEvents limit)

/-- However the steps of any number of calls alternate, the list of active alarms has just the rows
that are not ok, each once, those seen last first and of those seen at one time the last numbered
first. Nothing of it depends on the order in which the rows are gone through. -/
theorem Session.activeNewestFirst_canonical (moves : List Move) :
    ∃ rows, Lifecycle.activeNewestFirst.run memoryStore (run moves).store =
        (.ok rows, (run moves).store, []) ∧
      (∀ row, row ∈ rows ↔
        (run moves).store.rows.get? row.id = some row ∧ row.state ≠ .ok) ∧
      (rows.map (·.id)).Nodup ∧ rows.Pairwise Occurrence.Newer ∧
      ∀ order, (∀ others, (order others).Perm others) →
        Lifecycle.activeNewestFirst.run (shuffledStore order) (run moves).store =
          (.ok rows, (run moves).store, []) := by
  have h := run_wellKept moves
  generalize (run moves).store = store at h ⊢
  have distinct : (store.active.map (·.id)).Nodup :=
    h.nodup_ids.sublist (List.filter_sublist.map _)
  have sorted := Sorting.sort_perm Occurrence.newerFirst store.active
  have nodup := (sorted.map (·.id)).nodup_iff.mpr distinct
  refine ⟨Sorting.sort Occurrence.newerFirst store.active, rfl, fun row => ?_, nodup, ?_, ?_⟩
  · rw [Sorting.mem_sort, h.mem_active]
  · have apart := List.pairwise_map.mp nodup
    exact ((Sorting.pairwise_sort Occurrence.newerFirst store.active).and apart).imp
      fun both => Occurrence.newer_of_newerFirst both.1 both.2
  · intro order perm
    have same : store.active.Perm ((order store.listed).filter (·.isActive)) :=
      ((perm store.listed).filter _).symm
    have list := Sorting.sort_congr_of_perm _ same fun a ha b hb before after =>
      List.inj_on_of_nodup_map distinct ha hb (Occurrence.id_eq_of_newerFirst before after)
    rw [list]
    rfl

/-- Three alarms, the first and the last of them seen at one time, and the other cleared. -/
def threeAlarms : List Move :=
  let seen (key : String) (state : AlarmState) (second : Int) : Move :=
    .start 5 (.observe { source := "engine", key, state, timestamp := ⟨second, 0⟩ })
  [seen "P1" .alarm 1, .advance 0, .advance 0, seen "P2" .alarm 2, .advance 1, .advance 1,
    seen "P3" .warning 1, .advance 2, .advance 2, seen "P2" .ok 3, .advance 3, .advance 3]

theorem Session.activeNewestFirst_threeAlarms :
    (∀ rows : List Occurrence, rows.reverse.Perm rows) ∧
      ∃ rows, rows.map (·.id) = [3, 1] ∧ rows.Pairwise Occurrence.Newer ∧
        Lifecycle.activeNewestFirst.run (shuffledStore List.reverse) (run threeAlarms).store =
          (.ok rows, (run threeAlarms).store, []) := by
  obtain ⟨rows, listed, -, -, newest, shuffled⟩ := activeNewestFirst_canonical threeAlarms
  refine ⟨List.reverse_perm, rows, ?_, newest, shuffled List.reverse List.reverse_perm⟩
  have result := congrArg (fun ended => ended.1.toOption.map (List.map (·.id))) listed
  exact Option.some.inj (result.symm.trans (by decide))

end PlcMonitor
