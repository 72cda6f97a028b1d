import PlcMonitor.Proofs.Alarm.Chronicle

/-! Acknowledgement and state leave each other alone. An observation never touches who has
acknowledged a row and when, an acknowledgement touches little else, and a write of either kind
takes one row one version on. -/
namespace PlcMonitor

namespace Occurrence

/-- What an observation leaves of a row. Its notes may get other texts, but none goes. -/
structure Keeps (before after : Occurrence) : Prop where
  id : after.id = before.id
  source : after.source = before.source
  key : after.key = before.key
  firstSeenAt : after.firstSeenAt = before.firstSeenAt
  acknowledged : after.acknowledged = before.acknowledged
  acknowledgedAt : after.acknowledgedAt = before.acknowledgedAt
  acknowledgedBy : after.acknowledgedBy = before.acknowledgedBy
  notes : ∀ name, (before.notes.get? name).isSome = true → (after.notes.get? name).isSome = true

theorem Keeps.refl (row : Occurrence) : row.Keeps row :=
  ⟨rfl, rfl, rfl, rfl, rfl, rfl, rfl, fun _ there => there⟩

theorem Keeps.trans {a b c : Occurrence} (first : a.Keeps b) (second : b.Keeps c) : a.Keeps c where
  id := second.id.trans first.id
  source := second.source.trans first.source
  key := second.key.trans first.key
  firstSeenAt := second.firstSeenAt.trans first.firstSeenAt
  acknowledged := second.acknowledged.trans first.acknowledged
  acknowledgedAt := second.acknowledgedAt.trans first.acknowledgedAt
  acknowledgedBy := second.acknowledgedBy.trans first.acknowledgedBy
  notes name there := second.notes name (first.notes name there)

theorem keeps_observe (row : Occurrence) (seen : Observation) (version : Nat) :
    row.Keeps { (row.observe seen).1 with version } := by
  have notes : ∀ name, (row.notes.get? name).isSome = true →
      ((row.notes.union seen.notes).get? name).isSome = true :=
    fun name there => Table.isSome_get?_insertAll.mpr (.inr there)
  unfold observe
  split <;> exact ⟨rfl, rfl, rfl, rfl, rfl, rfl, rfl, notes⟩

def endorsed (row : Occurrence) (now : Instant) (identity : String) (note : Option String) :
    Occurrence :=
  { row.acknowledge now identity note with version := row.version + 1 }

/-- What an acknowledgement makes of a row. An empty note is no note. -/
structure Acknowledges (before : Occurrence) (now : Instant) (identity : String)
    (note : Option String) (after : Occurrence) : Prop where
  rest : after = { before with
    acknowledged := true
    acknowledgedAt := some now
    acknowledgedBy := some identity
    notes := after.notes
    version := before.version + 1 }
  noted : ∀ text, note = some text → text ≠ "" → after.notes.get? "ack_note" = some text
  others : ∀ name, name ≠ "ack_note" → after.notes.get? name = before.notes.get? name
  unnoted : (∀ text, note = some text → text = "") → after.notes = before.notes

theorem acknowledges_acknowledge (row : Occurrence) (now : Instant) (identity : String)
    (note : Option String) :
    row.Acknowledges now identity note (row.endorsed now identity note) := by
  by_cases noted : ∃ text, note = some text ∧ text ≠ ""
  · obtain ⟨text, rfl, written⟩ := noted
    have notes : (row.endorsed now identity (some text)).notes =
        row.notes.insert "ack_note" text := by
      simp [endorsed, acknowledge, Option.filter, written]
    refine ⟨rfl, ?_, ?_, ?_⟩ <;> rw [notes]
    · rintro _ ⟨⟩ -
      exact Table.get?_insert_self ..
    · exact fun name other => Table.get?_insert_of_ne _ _ other
    · exact fun empty => absurd (empty text rfl) written
  · have notes : (row.endorsed now identity note).notes = row.notes := by
      cases note with
      | none => rfl
      | some text =>
        have empty : text = "" := by simpa using noted
        simp [endorsed, acknowledge, Option.filter, empty]
    refine ⟨rfl, ?_, ?_, ?_⟩ <;> rw [notes]
    · exact fun text same written => absurd ⟨text, same, written⟩ noted
    · exact fun _ _ => rfl
    · exact fun _ => rfl

end Occurrence

open MemoryStore

/-- Nothing is written, or one row, which gets the version after the one that it had. -/
def OneWrite (store next : MemoryStore) : Prop :=
  next = store ∨ ∃ id row, next.rows.get? id = some row ∧
    row.version = (store.rows.get? id).elim 0 (·.version) + 1 ∧
    ∀ other, other ≠ id → next.rows.get? other = store.rows.get? other

theorem Change.oneWrite {store next : MemoryStore} (change : Change store next)
    (h : store.Indexed) : OneWrite store next := by
  cases change with
  | none => exact .inl rfl
  | @begin row event begins free =>
    rw [insert_free event free]
    refine .inr ⟨store.lastRow + 1, store.numbered row, Table.get?_insert_self .., ?_, ?_⟩
    · rw [h.unused]
      rfl
    · exact fun other ne => Table.get?_insert_of_ne _ _ ne
  | @revise stored row event found revises =>
    have found : store.rows.get? row.id = some stored := revises.id ▸ found
    rw [update_current event found revises.version.symm]
    refine .inr ⟨row.id, _, Table.get?_insert_self .., ?_, ?_⟩
    · rw [found, revises.version]
      rfl
    · exact fun other ne => Table.get?_insert_of_ne _ _ ne

def Call.Acknowledges (id : Nat) : Call → Prop
  | .observe _ => False
  | .acknowledge id' .. => id' = id

namespace MemoryStore

section Writing
variable {store : MemoryStore} (h : store.Indexed) {id : Nat} {row : Occurrence}
  (there : store.rows.get? id = some row)
include h there

theorem Indexed.keeps_observe (filed : Observation) :
    ∃ after, (store.observe filed).rows.get? id = some after ∧ row.Keeps after := by
  unfold MemoryStore.observe
  split
  · rename_i stored named
    obtain ⟨found, -⟩ := h.find?_eq_some_iff.mp named
    have revises := stored.observe_revises filed
    have found : store.rows.get? (stored.observe filed).1.id = some stored := revises.id ▸ found
    by_cases here : id = (stored.observe filed).1.id
    · obtain rfl : stored = row := Option.some.inj (found.symm.trans (here ▸ there))
      rw [update_current _ found revises.version.symm, here]
      exact ⟨_, Table.get?_insert_self .., stored.keeps_observe filed _⟩
    · exact ⟨row, (store.get?_update_of_ne here _).trans there, .refl row⟩
  · rename_i absent
    split
    · have free : store.byKey.lookup (filed.toOccurrence.source, filed.toOccurrence.key) = none :=
        h.find?_eq_none_iff.mp absent
      have := h.id_le there
      rw [insert_free _ free]
      exact ⟨row, (Table.get?_insert_of_ne _ _ (by omega)).trans there, .refl row⟩
    · exact ⟨row, there, .refl row⟩

theorem Indexed.keeps_effect {call : Call} (other : ¬call.Acknowledges id) (n : Nat) :
    ∃ after, (call.effect n store).rows.get? id = some after ∧ row.Keeps after := by
  cases call with
  | observe seen => exact h.keeps_observe there seen.normalized
  | acknowledge id' clock identity note =>
    change ∃ after, (store.acknowledge id' (clock n) identity note).rows.get? id = _ ∧ _
    unfold MemoryStore.acknowledge
    split
    · rename_i stored found
      refine ⟨row, (store.get?_update_of_ne ?_ none).trans there, .refl row⟩
      exact fun same => other (h.id_eq found ▸ same.symm)
    · exact ⟨row, there, .refl row⟩

theorem Indexed.run_acknowledge (retries : Nat) (clock : Nat → Instant) (identity : String)
    (note : Option String) :
    (Lifecycle.acknowledge retries id clock identity note).run memoryStore store =
      (.ok (row.endorsed (clock 0) identity note),
        { store with rows := store.rows.insert id (row.endorsed (clock 0) identity note) },
        []) := by
  obtain rfl := h.id_eq there
  have written := @update_current store (row.acknowledge (clock 0) identity note) row none there rfl
  have attempted : ((Call.acknowledge row.id clock identity note).attempt 0).run memoryStore store =
      (.ok (row.endorsed (clock 0) identity note),
        { store with rows := store.rows.insert row.id (row.endorsed (clock 0) identity note) },
        []) := by
    simp only [Call.attempt, Lifecycle.acknowledgeOnce, Lifecycle.endorse, Script.run, memoryStore,
      respond, there]
    rw [written]
    simp [Occurrence.endorsed, Occurrence.acknowledge]
  exact Call.run_script_won rfl attempted retries

omit h there in
theorem run_acknowledge_unknown (unknown : store.rows.get? id = none) (retries : Nat)
    (clock : Nat → Instant) (identity : String) (note : Option String) :
    ((Lifecycle.acknowledge retries id clock identity note).run memoryStore store).1 =
      .error (.unknownOccurrence id) := by
  have attempted : ((Call.acknowledge id clock identity note).attempt 0).run memoryStore store =
      (.error (.notFound id), store, []) := by
    simp only [Call.attempt, Lifecycle.acknowledgeOnce, Script.run, memoryStore, respond, unknown]
  exact congrArg Prod.fst (Call.run_script_won rfl attempted retries)

end Writing

end MemoryStore

/-- Until it is acknowledged again a row keeps its acknowledgement, and all that it began with. -/
theorem serially_keeps (retries : Nat) (earlier : List Call) {id : Nat} {row : Occurrence}
    (there : (serially retries earlier).rows.get? id = some row) (later : List Call)
    (others : ∀ call ∈ later, ¬call.Acknowledges id) :
    ∃ last, (serially retries (earlier ++ later)).rows.get? id = some last ∧ row.Keeps last := by
  induction later using List.reverseRecOn with
  | nil => exact ⟨row, by rwa [List.append_nil], .refl row⟩
  | append_singleton later call ih =>
    obtain ⟨others, other⟩ := List.forall_mem_append.mp others
    obtain ⟨last, found, kept⟩ := ih others
    have indexed := (serially_wellKept retries (earlier ++ later)).toIndexed
    obtain ⟨after, found', kept'⟩ :=
      indexed.keeps_effect found (other call (List.mem_singleton_self call)) 0
    rw [← List.append_assoc, serially_concat, Call.run_script indexed]
    exact ⟨after, found', kept.trans kept'⟩

/-- Calls are made one after another. An observation leaves of each row who has acknowledged it and
when, and all that the row began with. An acknowledgement of a row that is there succeeds and writes
that row only: its own fields, the note it brings and the version; until the row is acknowledged
again, all further calls leave the acknowledgement as it is. No call writes more than one row, nor
that one more than once. -/
theorem serially_acknowledged (retries : Nat) (earlier : List Call) :
    let store := serially retries earlier
    (∀ call, OneWrite store (serially retries (earlier ++ [call]))) ∧
    (∀ seen id row, store.rows.get? id = some row →
      ∃ after, (serially retries (earlier ++ [.observe seen])).rows.get? id = some after ∧
        row.Keeps after) ∧
    ∀ id clock identity note,
      let ran := (Lifecycle.acknowledge retries id clock identity note).run memoryStore store
      ((∃ after, ran.1 = .ok after) ↔ ∃ row, store.rows.get? id = some row) ∧
      ∀ row, store.rows.get? id = some row → ∃ after,
        row.Acknowledges (clock 0) identity note after ∧
        ran = (.ok after, { store with rows := store.rows.insert id after }, []) ∧
        ∀ later, (∀ call ∈ later, ¬call.Acknowledges id) → ∃ last,
          (serially retries
            (earlier ++ .acknowledge id clock identity note :: later)).rows.get? id = some last ∧
          last.acknowledged = true ∧ last.acknowledgedAt = some (clock 0) ∧
          last.acknowledgedBy = some identity := by
  intro store
  have indexed : store.Indexed := (serially_wellKept retries earlier).toIndexed
  refine ⟨fun call => ?_, fun seen id row there => ?_, fun id clock identity note => ⟨?_, ?_⟩⟩
  · rw [serially_concat, Call.run_script indexed]
    exact (call.effect_change indexed 0).oneWrite indexed
  · exact serially_keeps retries earlier there [.observe seen]
      (List.forall_mem_singleton.mpr not_false)
  · cases there : store.rows.get? id with
    | none => simp [run_acknowledge_unknown there]
    | some row => simp [indexed.run_acknowledge there]
  · intro row there
    have ran := indexed.run_acknowledge there retries clock identity note
    have acknowledges := row.acknowledges_acknowledge (clock 0) identity note
    refine ⟨_, acknowledges, ran, fun later others => ?_⟩
    have stored :
        (serially retries (earlier ++ [.acknowledge id clock identity note])).rows.get? id =
          some (row.endorsed (clock 0) identity note) := by
      rw [serially_concat]
      refine (congrArg (fun ran => ran.2.1.rows.get? id) ran).trans ?_
      exact Table.get?_insert_self ..
    obtain ⟨last, found, kept⟩ := serially_keeps retries _ stored later others
    rw [List.append_assoc] at found
    exact ⟨last, found, kept.acknowledged, kept.acknowledgedAt, kept.acknowledgedBy⟩

theorem serially_acknowledged_pump :
    let seen (state : AlarmState) (time : Int) : Call :=
      .observe { source := "plant", key := "pump", state, timestamp := ⟨time, 0⟩ }
    ∃ row, (serially 5 [seen .warning 0]).rows.get? 1 = some row ∧
      ∃ last, (serially 5 ([seen .warning 0] ++
          .acknowledge 1 (fun _ => ⟨1, 0⟩) "ann" (some "looking") ::
            [seen .alarm 2, seen .ok 3, seen .alarm 4])).rows.get? 1 = some last ∧
        last.acknowledged = true ∧ last.acknowledgedAt = some ⟨1, 0⟩ ∧
        last.acknowledgedBy = some "ann" := by
  intro seen
  have there : ((serially 5 [seen .warning 0]).rows.get? 1).isSome = true := by decide
  obtain ⟨row, found⟩ := Option.isSome_iff_exists.mp there
  obtain ⟨-, -, acknowledged⟩ := serially_acknowledged 5 [seen .warning 0]
  obtain ⟨-, succeeds⟩ := acknowledged 1 (fun _ => ⟨1, 0⟩) "ann" (some "looking")
  obtain ⟨after, -, -, stays⟩ := succeeds row found
  exact ⟨row, found, stays _ (by simp [seen, Call.Acknowledges])⟩

end PlcMonitor
