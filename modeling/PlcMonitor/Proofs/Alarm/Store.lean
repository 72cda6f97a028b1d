import PlcMonitor.Alarm.Store
import PlcMonitor.Proofs.Table

/-! What the store in memory does with a write, and that its rows and its index of sources and
keys agree after every write that keeps the source and key of its row. -/
namespace PlcMonitor.MemoryStore

def filed (store : MemoryStore) (id : Nat) (event : AlarmEvent) : AlarmEvent :=
  { event with id := store.lastEvent + 1, occurrence := id }

def numbered (store : MemoryStore) (row : Occurrence) : Occurrence :=
  { row with id := store.lastRow + 1, version := 1 }

theorem insert_free {store : MemoryStore} {row : Occurrence} (event : AlarmEvent)
    (free : store.byKey.lookup (row.source, row.key) = none) :
    store.insert row event =
      (.ok (store.numbered row, store.filed (store.lastRow + 1) event),
        { rows := store.rows.insert (store.lastRow + 1) (store.numbered row)
          byKey := ((row.source, row.key), store.lastRow + 1) :: store.byKey
          events := store.events ++ [store.filed (store.lastRow + 1) event]
          lastRow := store.lastRow + 1
          lastEvent := store.lastEvent + 1 }) := by
  simp [insert, free, appendEvent, numbered, filed]

theorem insert_accepted {store : MemoryStore} {row : Occurrence} (event : AlarmEvent)
    (free : store.byKey.lookup (row.source, row.key) = none) :
    store.insert row event =
      (.ok (store.numbered row, store.filed (store.lastRow + 1) event),
        (store.insert row event).2) := by
  rw [insert_free event free]

theorem insert_taken {store : MemoryStore} {row : Occurrence} (event : AlarmEvent)
    (taken : store.byKey.lookup (row.source, row.key) ≠ none) :
    store.insert row event = (.error (.conflict row.source row.key), store) := by
  simp [insert, Option.isSome_iff_ne_none, taken]

theorem update_stale {store : MemoryStore} {row stored : Occurrence} (event : Option AlarmEvent)
    (found : store.rows.get? row.id = some stored) (stale : stored.version ≠ row.version) :
    store.update row event = (.error (.conflict row.source row.key), store) := by
  simp [update, found, stale]

theorem update_current {store : MemoryStore} {row stored : Occurrence} (event : Option AlarmEvent)
    (found : store.rows.get? row.id = some stored) (current : stored.version = row.version) :
    store.update row event =
      (.ok ({ row with version := row.version + 1 }, event.map (store.filed row.id)),
        { store with
          rows := store.rows.insert row.id { row with version := row.version + 1 }
          events := store.events ++ (event.map (store.filed row.id)).toList
          lastEvent := store.lastEvent + event.toList.length }) := by
  cases event <;> simp [update, found, current, appendOptional, appendEvent, filed]

theorem get?_update_of_ne (store : MemoryStore) {row : Occurrence} {id : Nat}
    (other : id ≠ row.id) (event : Option AlarmEvent) :
    (store.update row event).2.rows.get? id = store.rows.get? id := by
  cases found : store.rows.get? row.id with
  | none => simp [update, found]
  | some stored =>
    by_cases current : stored.version = row.version
    · rw [update_current event found current]
      exact Table.get?_insert_of_ne _ _ other
    · rw [update_stale event found current]

/-- The rows are numbered by their ids up to the last one given out, and the index holds exactly
their sources and keys. -/
structure Indexed (store : MemoryStore) : Prop where
  ascending : store.rows.Ascending
  id_eq : ∀ {id row}, store.rows.get? id = some row → row.id = id
  id_le : ∀ {id row}, store.rows.get? id = some row → id ≤ store.lastRow
  distinct : (store.byKey.map Prod.fst).Nodup
  agree : ∀ source key id, store.byKey.lookup (source, key) = some id ↔
    ∃ row, store.rows.get? id = some row ∧ row.source = source ∧ row.key = key

theorem indexed_empty : Indexed {} where
  ascending := List.Pairwise.nil
  id_eq h := by simp at h
  id_le h := by simp at h
  distinct := List.nodup_nil
  agree source key id := by simp

section Reading
variable {store : MemoryStore} (h : store.Indexed)
include h

theorem Indexed.find?_eq_some_iff {source key : String} {row : Occurrence} :
    store.find? source key = some row ↔
      store.rows.get? row.id = some row ∧ row.source = source ∧ row.key = key := by
  unfold find?
  rw [Option.bind_eq_some_iff]
  constructor
  · rintro ⟨id, hid, found⟩
    obtain ⟨row', found', names⟩ := (h.agree source key id).mp hid
    obtain rfl : row' = row := Option.some.inj (found'.symm.trans found)
    rw [h.id_eq found]
    exact ⟨found, names⟩
  · rintro ⟨found, names⟩
    exact ⟨row.id, (h.agree source key row.id).mpr ⟨row, found, names⟩, found⟩

theorem Indexed.find?_eq_none_iff {source key : String} :
    store.find? source key = none ↔ store.byKey.lookup (source, key) = none := by
  unfold find?
  cases hid : store.byKey.lookup (source, key) with
  | none => simp
  | some id =>
    obtain ⟨row, found, -⟩ := (h.agree source key id).mp hid
    simp [found]

theorem Indexed.eq_of_names {a b : Occurrence} (ha : store.rows.get? a.id = some a)
    (hb : store.rows.get? b.id = some b) (source : a.source = b.source) (key : a.key = b.key) :
    a = b := by
  have first := h.find?_eq_some_iff.mpr ⟨ha, source, key⟩
  have second := h.find?_eq_some_iff.mpr ⟨hb, rfl, rfl⟩
  exact Option.some.inj (first.symm.trans second)

theorem Indexed.unused : store.rows.get? (store.lastRow + 1) = none := by
  cases found : store.rows.get? (store.lastRow + 1) with
  | none => rfl
  | some old =>
    have := h.id_le found
    omega

end Reading

theorem Indexed.insert {store : MemoryStore} (h : store.Indexed) {row : Occurrence}
    (event : AlarmEvent) (free : store.byKey.lookup (row.source, row.key) = none) :
    (store.insert row event).2.Indexed := by
  rw [insert_free event free]
  refine {
    ascending := Table.ascending_insert h.ascending _ _
    id_eq := ?id_eq
    id_le := ?id_le
    distinct := ?distinct
    agree := ?agree }
  case id_eq =>
    intro id r found
    rcases Table.get?_insert_eq_some found with ⟨rfl, rfl⟩ | ⟨-, old⟩
    · rfl
    · exact h.id_eq old
  case id_le =>
    intro id r found
    rcases Table.get?_insert_eq_some found with ⟨rfl, -⟩ | ⟨-, old⟩
    · exact Nat.le_refl _
    · exact Nat.le_succ_of_le (h.id_le old)
  case distinct =>
    refine List.nodup_cons.mpr ⟨fun hm => ?_, h.distinct⟩
    obtain ⟨entry, hentry, he⟩ := List.mem_map.mp hm
    exact absurd (List.lookup_eq_none_iff.mp free entry hentry) (by simp [he])
  case agree =>
    intro source key id
    rw [List.lookup_cons, Table.get?_insert]
    by_cases names : (source, key) = (row.source, row.key)
    · obtain ⟨rfl, rfl⟩ := Prod.mk.inj names
      have none_named : ¬∃ r, store.rows.get? id = some r ∧ r.source = row.source ∧
          r.key = row.key := fun named => by simp [(h.agree _ _ id).mpr named] at free
      by_cases he : id = store.lastRow + 1 <;> grind [numbered]
    · have hbeq : ((source, key) == (row.source, row.key)) = false := by simpa using names
      simp only [hbeq]
      by_cases he : id = store.lastRow + 1
      · subst he
        rw [h.agree, h.unused]
        simp only [if_true, Option.some.injEq]
        constructor
        · rintro ⟨r, hr, -⟩
          cases hr
        · rintro ⟨r, rfl, rfl, rfl⟩
          exact absurd rfl names
      · rw [if_neg he]
        exact h.agree source key id

theorem Indexed.find?_insert {store : MemoryStore} (h : store.Indexed) {row : Occurrence}
    (event : AlarmEvent) (free : store.byKey.lookup (row.source, row.key) = none)
    (source key : String) :
    (store.insert row event).2.find? source key =
      if row.source = source ∧ row.key = key then some (store.numbered row)
      else store.find? source key := by
  rw [insert_free event free]
  unfold find?
  dsimp only
  by_cases names : row.source = source ∧ row.key = key
  · obtain ⟨rfl, rfl⟩ := names
    rw [if_pos ⟨rfl, rfl⟩, List.lookup_cons_self]
    exact Table.get?_insert_self _ _ _
  · have hbeq : ((source, key) == (row.source, row.key)) = false := by
      rw [beq_eq_false_iff_ne]
      exact fun same => names ⟨(congrArg Prod.fst same).symm, (congrArg Prod.snd same).symm⟩
    rw [if_neg names, List.lookup_cons, hbeq]
    refine Option.bind_congr fun id hid => ?_
    obtain ⟨old, found, -⟩ := (h.agree source key id).mp hid
    have := h.id_le found
    exact Table.get?_insert_of_ne _ _ (by omega)

theorem Indexed.update {store : MemoryStore} (h : store.Indexed) {stored row : Occurrence}
    (event : Option AlarmEvent) (found : store.rows.get? row.id = some stored)
    (current : stored.version = row.version) (source : row.source = stored.source)
    (key : row.key = stored.key) : (store.update row event).2.Indexed := by
  rw [update_current event found current]
  refine {
    ascending := Table.ascending_insert h.ascending _ _
    id_eq := ?id_eq
    id_le := ?id_le
    distinct := h.distinct
    agree := ?agree }
  case id_eq =>
    intro id r hr
    rcases Table.get?_insert_eq_some hr with ⟨rfl, rfl⟩ | ⟨-, old⟩
    · rfl
    · exact h.id_eq old
  case id_le =>
    intro id r hr
    rcases Table.get?_insert_eq_some hr with ⟨rfl, -⟩ | ⟨-, old⟩
    · exact h.id_le found
    · exact h.id_le old
  case agree =>
    intro s k id
    rw [h.agree, Table.get?_insert]
    by_cases he : id = row.id
    · subst he
      simp [found, source, key]
    · simp [he]

theorem Indexed.find?_update {store : MemoryStore} (h : store.Indexed) {stored row : Occurrence}
    (event : Option AlarmEvent) (found : store.rows.get? row.id = some stored)
    (current : stored.version = row.version) (same_source : row.source = stored.source)
    (same_key : row.key = stored.key) (source key : String) :
    (store.update row event).2.find? source key =
      if row.source = source ∧ row.key = key then some { row with version := row.version + 1 }
      else store.find? source key := by
  rw [update_current event found current]
  unfold find?
  dsimp only
  by_cases names : row.source = source ∧ row.key = key
  · obtain ⟨rfl, rfl⟩ := names
    rw [if_pos ⟨rfl, rfl⟩,
      (h.agree _ _ row.id).mpr ⟨stored, found, same_source.symm, same_key.symm⟩]
    exact Table.get?_insert_self _ _ _
  · rw [if_neg names]
    refine Option.bind_congr fun id hid => Table.get?_insert_of_ne _ _ ?_
    rintro rfl
    obtain ⟨old, hold, rfl, rfl⟩ := (h.agree source key row.id).mp hid
    obtain rfl : stored = old := Option.some.inj (found.symm.trans hold)
    exact names ⟨same_source, same_key⟩

end PlcMonitor.MemoryStore
