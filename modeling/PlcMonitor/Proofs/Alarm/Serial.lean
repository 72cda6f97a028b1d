import PlcMonitor.Proofs.Alarm.Session

/-! Calls that share a store are serializable in the order of their writes. -/
namespace PlcMonitor.Session

section Journal
variable {session next : Session} {entry : JournalEntry}
  (journal : next.journal = session.journal ++ [entry])
include journal

theorem committers_concat :
    next.committers = session.committers ++ if entry.commits then [entry.thread] else [] := by
  unfold committers
  rw [journal, List.filter_append, List.map_append]
  by_cases h : entry.commits = true <;> simp [h]

theorem conflicts_concat (i : Nat) :
    next.conflicts i = session.conflicts i +
      if (entry.thread = i && entry.conflicts) = true then 1 else 0 := by
  unfold conflicts
  rw [journal, List.countP_append, List.countP_singleton]

theorem conflicts_concat_self : next.conflicts entry.thread =
    session.conflicts entry.thread + if entry.conflicts then 1 else 0 := by
  rw [conflicts_concat journal]
  simp

theorem conflicts_concat_of_ne {i : Nat} (other : entry.thread ≠ i) :
    next.conflicts i = session.conflicts i := by
  rw [conflicts_concat journal]
  simp [other]

theorem mem_committers_concat_self (fresh : entry.thread ∉ session.committers) :
    entry.thread ∈ next.committers ↔ entry.commits = true := by
  rw [committers_concat journal]
  cases entry.commits <;> simp [fresh]

theorem mem_committers_concat_of_ne {i : Nat} (other : entry.thread ≠ i) :
    i ∈ next.committers ↔ i ∈ session.committers := by
  rw [committers_concat journal]
  cases entry.commits <;> simp [Ne.symm other]

theorem nodup_committers_concat (nodup : session.committers.Nodup)
    (fresh : entry.thread ∉ session.committers) : next.committers.Nodup := by
  rw [committers_concat journal]
  cases entry.commits with
  | false => simpa using nodup
  | true =>
    refine List.nodup_append.mpr ⟨nodup, by simp, fun i hi j hj same => fresh ?_⟩
    rwa [← List.mem_singleton.mp hj, ← same]

theorem committed_concat (fresh : entry.thread ∉ session.committers) :
    next.committed = session.committed ++
      if entry.commits then [entry.call.after (next.conflicts entry.thread)] else [] := by
  have earlier : (session.journal.filter (·.commits)).map
      (fun old => old.call.after (next.conflicts old.thread)) = session.committed := by
    refine List.map_congr_left fun old hold => ?_
    have other : entry.thread ≠ old.thread := fun he =>
      fresh (he ▸ List.mem_map_of_mem hold)
    rw [conflicts_concat_of_ne journal other]
  unfold committed at earlier ⊢
  rw [journal, List.filter_append, List.map_append, earlier]
  by_cases h : entry.commits = true <;> simp [h]

end Journal

/-- The store is what the committed calls make of an empty one, and every thread is at a place
from which this stays so. -/
structure Simulated (session : Session) : Prop where
  indexed : session.store.Indexed
  serial : ∀ retries, session.store = serially retries session.committed
  staged : ∀ {i thread}, session.threads[i]? = some thread →
    Stage session.store thread.call (session.conflicts i) (decide (i ∈ session.committers))
      thread.script
  nodup : session.committers.Nodup
  known : ∀ entry ∈ session.journal, entry.thread < session.threads.length

theorem simulated_empty : Simulated {} where
  indexed := MemoryStore.indexed_empty
  serial _ := rfl
  staged h := by simp at h
  nodup := List.nodup_nil
  known := by simp

section Step
variable {session : Session} (h : session.Simulated)
include h

theorem Simulated.start (retries : Nat) (call : Call) : (session.start retries call).Simulated where
  indexed := h.indexed
  serial := h.serial
  nodup := h.nodup
  known entry hentry := by
    have := h.known entry hentry
    simp only [Session.start, List.length_append, List.length_singleton]
    omega
  staged {i thread} hi := by
    rcases Nat.lt_trichotomy i session.threads.length with old | new | beyond
    · refine h.staged ?_
      rwa [Session.start, List.getElem?_append_left old] at hi
    · subst new
      simp only [Session.start, List.getElem?_concat_length, Option.some.injEq] at hi
      subst hi
      have unknown : ∀ entry ∈ session.journal, entry.thread ≠ session.threads.length :=
        fun entry hentry => Nat.ne_of_lt (h.known entry hentry)
      have calm : (session.start retries call).conflicts session.threads.length = 0 := by
        refine List.countP_eq_zero.mpr fun entry hentry => ?_
        simp [unknown entry hentry]
      have idle : session.threads.length ∉ (session.start retries call).committers := by
        intro hm
        obtain ⟨entry, hentry, same⟩ := List.mem_map.mp hm
        exact unknown entry (List.mem_filter.mp hentry).1 same
      rw [calm, decide_eq_false idle, script_eq_resume]
      exact .reading retries
    · rw [List.getElem?_eq_none (by simp [Session.start]; omega)] at hi
      cases hi

theorem Simulated.announce {i : Nat} {call : Call} {event : AlarmEvent}
    {rest : Script (Except LifecycleFault call.Answer)}
    (at_i : session.threads[i]? = some ⟨call, .announce event rest⟩) :
    (session.announce i call event rest).Simulated where
  indexed := h.indexed
  serial := h.serial
  nodup := h.nodup
  known entry hentry := by simpa [Session.announce] using h.known entry hentry
  staged {j thread} hj := by
    rw [Session.announce, List.getElem?_set] at hj
    split at hj
    · rename_i same
      subst same
      obtain ⟨-, hj⟩ := Option.ite_none_right_eq_some.mp hj
      cases hj
      cases (h.staged at_i).settled h.indexed (fun _ _ => nofun) with
      | announce settled => exact .ended settled
    · exact h.staged hj

/-- A store call of a thread that has not written, whatever comes of it. -/
theorem Simulated.push {entry : JournalEntry} {store : MemoryStore}
    {script rest : Script (Except LifecycleFault entry.call.Answer)}
    (at_i : session.threads[entry.thread]? = some ⟨entry.call, script⟩)
    (fresh : entry.thread ∉ session.committers) (indexed : store.Indexed)
    (evolves : Evolves session.store store)
    (serial : ∀ retries, store = serially retries (session.committed ++
      if entry.commits then [entry.call.after (session.conflicts entry.thread)] else []))
    (stage : Stage store entry.call
      (session.conflicts entry.thread + if entry.conflicts then 1 else 0) entry.commits rest) :
    Simulated {
      store
      threads := session.threads.set entry.thread ⟨entry.call, rest⟩
      journal := session.journal ++ [entry]
      announced := session.announced } := by
  generalize hnext : Session.mk store (session.threads.set entry.thread ⟨entry.call, rest⟩)
    (session.journal ++ [entry]) session.announced = next
  have journal : next.journal = session.journal ++ [entry] := by rw [← hnext]
  have threads : next.threads = session.threads.set entry.thread ⟨entry.call, rest⟩ := by
    rw [← hnext]
  have store_eq : next.store = store := by rw [← hnext]
  refine {
    indexed := store_eq ▸ indexed
    serial := ?serial
    staged := ?staged
    nodup := nodup_committers_concat journal h.nodup fresh
    known := ?known }
  case serial =>
    intro retries
    rw [store_eq, committed_concat journal fresh, serial retries]
    by_cases commits : entry.commits = true
    · have calm := JournalEntry.not_conflicts_of_commits commits
      simp [commits, conflicts_concat_self journal, calm]
    · simp [commits]
  case staged =>
    intro j thread hj
    rw [threads, List.getElem?_set] at hj
    rw [store_eq]
    by_cases same : entry.thread = j
    · subst same
      rw [if_pos rfl] at hj
      obtain ⟨-, hj⟩ := Option.ite_none_right_eq_some.mp hj
      cases hj
      have own : decide (entry.thread ∈ next.committers) = entry.commits := by
        simp [mem_committers_concat_self journal fresh]
      rw [conflicts_concat_self journal, own]
      exact stage
    · rw [if_neg same] at hj
      rw [conflicts_concat_of_ne journal same,
        decide_eq_decide.mpr (mem_committers_concat_of_ne journal same)]
      exact (h.staged hj).evolve evolves
  case known =>
    intro old hold
    rw [threads, List.length_set]
    rw [journal] at hold
    rcases List.mem_append.mp hold with hold | hold
    · exact h.known old hold
    · obtain rfl := List.mem_singleton.mp hold
      exact (List.getElem?_eq_some_iff.mp at_i).1

theorem Simulated.ask {i : Nat} {call : Call} {request : StoreRequest}
    {rest : Except StoreFault request.Answer → Script (Except LifecycleFault call.Answer)}
    (at_i : session.threads[i]? = some ⟨call, .ask request rest⟩) :
    (session.ask i call request rest).Simulated := by
  obtain ⟨fresh, asked⟩ := (h.staged at_i).ask h.indexed
  have fresh : i ∉ session.committers := of_decide_eq_false fresh
  have change := call.effect_change h.indexed (session.conflicts i)
  unfold Session.ask memoryStore
  dsimp only
  generalize session.store.respond request = response at asked ⊢
  obtain ⟨answer, store⟩ := response
  dsimp only at asked ⊢
  have evolves : Evolves store store := fun found => ⟨_, found, .inl rfl⟩
  cases asked with
  | read noWrite won stage =>
    have commits : (JournalEntry.mk i call request answer).commits = false := by
      simp [JournalEntry.commits, noWrite]
    have conflicts : (JournalEntry.mk i call request answer).conflicts = false := won
    refine @Simulated.push _ h ⟨i, call, request, answer⟩ _ _ _ at_i fresh h.indexed evolves ?_ ?_
    · simpa [commits] using h.serial
    · simpa [commits, conflicts] using stage
  | late refused lost stage =>
    have commits : (JournalEntry.mk i call request answer).commits = false := by
      simp [JournalEntry.commits, refused]
    have conflicts : (JournalEntry.mk i call request answer).conflicts = true := lost
    refine @Simulated.push _ h ⟨i, call, request, answer⟩ _ _ _ at_i fresh h.indexed evolves ?_ ?_
    · simpa [commits] using h.serial
    · simpa [commits, conflicts] using stage
  | wrote write accepted won settled =>
    have commits : (JournalEntry.mk i call request answer).commits = true := by
      simp [JournalEntry.commits, write, accepted]
    refine @Simulated.push _ h ⟨i, call, request, answer⟩ _ _ _ at_i fresh
      (change.indexed h.indexed) (change.evolves h.indexed) ?_ ?_
    · intro retries
      rw [commits, if_pos rfl, serially_concat, ← h.serial retries,
        Call.run_script h.indexed, Call.effect_after]
    · rw [commits]
      exact .ended settled

end Step

theorem simulated_run (moves : List Move) : (run moves).Simulated := by
  refine run_induction simulated_empty (fun {session next} h stepped => ?_) moves
  cases stepped with
  | idle => exact h
  | start retries call => exact h.start retries call
  | announce at_i => exact h.announce at_i
  | ask at_i => exact h.ask at_i

/-- However the steps of any number of calls alternate, the store is as if the calls whose write
was accepted had been made one after another in the order of their writes, each at once. A call
writes at most once, and one that has returned has written just when its result reports a row. -/
theorem run_serializable (moves : List Move) (retries : Nat) :
    (run moves).store = serially retries (run moves).committed ∧
      (run moves).committers.Nodup ∧
      ∀ i thread result, (run moves).threads[i]? = some thread → thread.script = .done result →
        (i ∈ (run moves).committers ↔ thread.call.wrote result = true) := by
  have h := simulated_run moves
  refine ⟨h.serial retries, h.nodup, fun i ⟨call, script⟩ result hi hdone => ?_⟩
  dsimp only at hdone result
  subst hdone
  cases (h.staged hi).settled h.indexed (fun _ _ => nofun) with
  | done reports =>
    dsimp only at reports
    rw [reports, decide_eq_true_iff]

/-- Both find no row, the second is the first to insert one, and the other tries again. -/
example :
    let seen : Observation :=
      { source := "engine", key := "P1", state := .alarm, timestamp := ⟨0, 0⟩ }
    let session := run [.start 5 (.observe seen), .start 5 (.observe seen), .advance 0,
      .advance 1, .advance 1, .advance 0, .advance 0, .advance 0]
    session.committers = [1, 0] ∧ session.conflicts 0 = 1 := by
  decide

end PlcMonitor.Session
