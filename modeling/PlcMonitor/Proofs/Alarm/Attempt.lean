import PlcMonitor.Proofs.Alarm.Call

/-! One attempt of a call, step by step: its read finds the write ready or ends it, and the write
is refused for a copy that is stale or has the effect of the whole attempt. -/
namespace PlcMonitor.Call
open MemoryStore

theorem observe_change {store : MemoryStore} (h : store.Indexed) {filed : Observation}
    (source : Observation.Proper filed.source) (key : Observation.Proper filed.key) :
    Change store (store.observe filed) := by
  unfold MemoryStore.observe
  split
  · rename_i row found
    exact .revise (h.find?_eq_some_iff.mp found).1 (row.observe_revises filed)
  · rename_i absent
    split
    · rename_i active
      exact .begin (Occurrence.begins_toOccurrence source key active)
        (h.find?_eq_none_iff.mp absent)
    · exact .none

theorem acknowledge_change {store : MemoryStore} (h : store.Indexed) (id : Nat) (now : Instant)
    (identity : String) (note : Option String) :
    Change store (store.acknowledge id now identity note) := by
  unfold MemoryStore.acknowledge
  split
  · rename_i row found
    exact .revise (h.id_eq found ▸ found) (row.acknowledge_revises now identity note)
  · exact .none

theorem effect_change {store : MemoryStore} (h : store.Indexed) (call : Call) (n : Nat) :
    Change store (call.effect n store) := by
  cases call with
  | observe seen => exact observe_change h seen.proper_source seen.proper_key
  | acknowledge id clock identity note => exact acknowledge_change h id (clock n) identity note

/-- What is left of an attempt once it has read: the write that the copy read calls for. -/
inductive Ready (store : MemoryStore) :
    (call : Call) → Nat → Script (Except StoreFault call.Answer) → Prop where
  | raise {seen filed : Observation} {n : Nat} (normal : seen.normalized = filed)
      (active : filed.state.isActive = true) : Ready store (.observe seen) n (Lifecycle.raise filed)
  | revise {seen filed : Observation} {n : Nat} {copy : Occurrence}
      (normal : seen.normalized = filed) (held : Held store copy)
      (source : copy.source = filed.source) (key : copy.key = filed.key) :
      Ready store (.observe seen) n (Lifecycle.revise filed copy)
  | endorse {clock : Nat → Instant} {identity : String} {note : Option String} {n : Nat}
      {copy : Occurrence} (held : Held store copy) :
      Ready store (.acknowledge copy.id clock identity note) n
        (Lifecycle.endorse (clock n) identity note copy)

theorem Ready.evolve {store next : MemoryStore} {call : Call} {n : Nat}
    {rest : Script (Except StoreFault call.Answer)} (ready : Ready store call n rest)
    (evolves : Evolves store next) : Ready next call n rest := by
  cases ready with
  | raise normal active => exact .raise normal active
  | revise normal held source key => exact .revise normal (held.evolve evolves) source key
  | endorse held => exact .endorse (held.evolve evolves)

/-- An attempt that asks for a write which the store accepts. -/
inductive Accepted (store : MemoryStore) (call : Call) (n : Nat) :
    Script (Except StoreFault call.Answer) → Prop where
  | intro {request : StoreRequest} {next} {stored : request.Answer}
      {result : Except StoreFault call.Answer} (write : request.written?.isSome = true)
      (answer : store.respond request = (.ok stored, call.effect n store))
      (ends : next (.ok stored) = .done result)
      (wrote : call.wrote result = true) (won : lostRace result = false) :
      Accepted store call n (.ask request next)

/-- An attempt that asks for a write which comes too late. -/
inductive Refused (store : MemoryStore) {call : Call} :
    Script (Except StoreFault call.Answer) → Prop where
  | intro {request : StoreRequest} {next} {source key : String}
      (write : request.written?.isSome = true)
      (answer : store.respond request = (.error (.conflict source key), store))
      (ends : next (.error (.conflict source key)) = .done (.error (.conflict source key))) :
      Refused store (.ask request next)

section Writes
variable {store : MemoryStore} (h : store.Indexed)
include h

theorem raise_accepted {seen filed : Observation} (n : Nat) (normal : seen.normalized = filed)
    (active : filed.state.isActive = true) (absent : store.find? filed.source filed.key = none) :
    Accepted store (.observe seen) n (Lifecycle.raise filed) := by
  have same : effect (.observe seen) n store =
      (store.insert filed.toOccurrence (filed.event filed.toOccurrence none)).2 := by
    simp only [effect, normal, MemoryStore.observe, absent, active, if_true]
  have accepted := @insert_accepted store filed.toOccurrence (filed.event filed.toOccurrence none)
    (h.find?_eq_none_iff.mp absent)
  exact .intro rfl (accepted.trans (congrArg (Prod.mk _) same.symm)) rfl rfl rfl

theorem revise_accepted {seen filed : Observation} (n : Nat) (normal : seen.normalized = filed)
    {row : Occurrence} (stored : store.rows.get? row.id = some row)
    (source : row.source = filed.source) (key : row.key = filed.key) :
    Accepted store (.observe seen) n (Lifecycle.revise filed row) := by
  have found := h.find?_eq_some_iff.mpr ⟨stored, source, key⟩
  have same : effect (.observe seen) n store =
      (store.update (row.observe filed).1 (row.observe filed).2).2 := by
    simp only [effect, normal, MemoryStore.observe, found]
  exact .intro rfl ((update_accepted stored (row.observe_revises filed)).trans
    (congrArg (Prod.mk _) same.symm)) rfl rfl rfl

omit h in
theorem endorse_accepted (clock : Nat → Instant) (identity : String) (note : Option String)
    (n : Nat) {row : Occurrence} (stored : store.rows.get? row.id = some row) :
    Accepted store (.acknowledge row.id clock identity note) n
      (Lifecycle.endorse (clock n) identity note row) := by
  have same : effect (.acknowledge row.id clock identity note) n store =
      (store.update (row.acknowledge (clock n) identity note) none).2 := by
    simp only [effect, MemoryStore.acknowledge, stored]
  exact .intro rfl ((update_accepted stored (row.acknowledge_revises (clock n) identity note)).trans
    (congrArg (Prod.mk _) same.symm)) rfl rfl rfl

/-- A write that is ready is accepted with the effect of the whole attempt, or comes too late. -/
theorem Ready.writes {call : Call} {n : Nat} {rest : Script (Except StoreFault call.Answer)}
    (ready : Ready store call n rest) : Refused store rest ∨ Accepted store call n rest := by
  cases ready with
  | @raise seen filed n normal active =>
    cases absent : store.find? filed.source filed.key with
    | none => exact .inr (raise_accepted h n normal active absent)
    | some row =>
      have taken : store.byKey.lookup (filed.source, filed.key) ≠ none :=
        fun free => by simp [h.find?_eq_none_iff.mpr free] at absent
      have refused := @insert_taken store filed.toOccurrence (filed.event filed.toOccurrence none)
        taken
      exact .inl (.intro rfl refused rfl)
  | revise normal held source key =>
    rcases held.current_or_stale with stored | stale
    · exact .inr (revise_accepted h _ normal stored source key)
    · exact .inl (.intro rfl (stale (Occurrence.observe_revises _ _)) rfl)
  | endorse held =>
    rcases held.current_or_stale with stored | stale
    · exact .inr (endorse_accepted _ _ _ _ stored)
    · exact .inl (.intro rfl (stale (Occurrence.acknowledge_revises _ _ _ _)) rfl)

end Writes

/-- An attempt that begins: its read has no effect, and finds a write ready that would be accepted
at once, or ends the attempt. -/
inductive Reads (store : MemoryStore) (call : Call) (n : Nat) :
    Script (Except StoreFault call.Answer) → Prop where
  | found {request : StoreRequest} {next} {answer : request.Answer}
      (read : request.written? = none) (answers : store.respond request = (.ok answer, store))
      (ready : Ready store call n (next (.ok answer)))
      (fresh : Accepted store call n (next (.ok answer))) : Reads store call n (.ask request next)
  | ended {request : StoreRequest} {next} {answer : request.Answer}
      {result : Except StoreFault call.Answer}
      (read : request.written? = none) (answers : store.respond request = (.ok answer, store))
      (ends : next (.ok answer) = .done result) (idle : call.effect n store = store)
      (wrote : call.wrote result = false) (won : lostRace result = false) :
      Reads store call n (.ask request next)

theorem attempt_reads {store : MemoryStore} (h : store.Indexed) (call : Call) (n : Nat) :
    Reads store call n (call.attempt n) := by
  cases call with
  | observe seen =>
    change Reads store (.observe seen) n (Lifecycle.observeOnce seen.normalized)
    generalize normal : seen.normalized = filed
    cases found : store.find? filed.source filed.key with
    | some row =>
      obtain ⟨stored, source, key⟩ := h.find?_eq_some_iff.mp found
      exact .found rfl (congrArg (Except.ok ·, store) found)
        (.revise normal (held_of_found stored) source key)
        (revise_accepted h n normal stored source key)
    | none =>
      by_cases active : filed.state.isActive = true
      · refine .found rfl (congrArg (Except.ok ·, store) found) ?_ ?_ <;>
          simp only [active, if_true]
        · exact .raise normal active
        · exact raise_accepted h n normal active found
      · refine .ended rfl (congrArg (Except.ok ·, store) found) (if_neg active) ?_ rfl rfl
        simp only [effect, normal, MemoryStore.observe, found, active]
        rfl
  | acknowledge id clock identity note =>
    cases found : store.rows.get? id with
    | some row =>
      obtain rfl := h.id_eq found
      exact .found rfl (congrArg (Except.ok ·, store) found) (.endorse (held_of_found found))
        (endorse_accepted clock identity note n found)
    | none =>
      refine .ended rfl (congrArg (Except.ok ·, store) found) rfl ?_ rfl rfl
      simp only [effect, MemoryStore.acknowledge, found]

theorem Accepted.run {store : MemoryStore} {call : Call} {n : Nat}
    {rest : Script (Except StoreFault call.Answer)} (accepted : Accepted store call n rest) :
    ∃ result, rest.run memoryStore store = (result, call.effect n store, []) ∧
      lostRace result = false := by
  obtain ⟨-, answer, ends, -, won⟩ := accepted
  rename_i stored result
  refine ⟨result, ?_, won⟩
  simp only [Script.run, memoryStore, answer]
  rw [ends]
  rfl

theorem run_attempt {store : MemoryStore} (h : store.Indexed) (call : Call) (n : Nat) :
    ∃ result, (call.attempt n).run memoryStore store = (result, call.effect n store, []) ∧
      lostRace result = false := by
  have reads := attempt_reads h call n
  generalize call.attempt n = script at reads ⊢
  cases reads with
  | found read answers ready fresh =>
    obtain ⟨result, run, won⟩ := fresh.run
    refine ⟨result, ?_, won⟩
    simp only [Script.run, memoryStore, answers]
    exact run
  | @ended request next answer result read answers ends idle wrote won =>
    refine ⟨result, ?_, won⟩
    simp only [Script.run, memoryStore, answers]
    rw [ends, idle]
    rfl

theorem run_finish {σ : Type} (store : AlarmStore σ) (call : Call)
    (result : Except StoreFault call.Answer) (state : σ) :
    (call.finish result).run store state =
      (result.mapError call.fault, state, call.left result) := by
  cases call with
  | observe seen =>
    rcases result with fault | ⟨occurrence, created, state, _ | event⟩ <;> rfl
  | acknowledge id clock identity note =>
    rcases result with (_ | _ | _) | _ <;> rfl

theorem run_script_won {store next : MemoryStore} {call : Call}
    {result : Except StoreFault call.Answer} (won : lostRace result = false)
    (run : (call.attempt 0).run memoryStore store = (result, next, [])) (retries : Nat) :
    (call.script retries).run memoryStore store =
      (result.mapError call.fault, next, call.left result) := by
  rw [script_eq, retrying_eq]
  simp only [Script.run_bind, run, followUp_won _ _ won, Script.run_done, run_finish,
    List.nil_append]

theorem run_script {store : MemoryStore} (h : store.Indexed) (retries : Nat) (call : Call) :
    ((call.script retries).run memoryStore store).2.1 = call.effect 0 store := by
  obtain ⟨result, run, won⟩ := run_attempt h call 0
  rw [run_script_won won run]

end PlcMonitor.Call
