import Mathlib.Data.List.Nodup
import Mathlib.Order.Defs.Unbundled
import PlcMonitor.Table

/-! Tables stay in ascending order, so that an entry is what looking its key up gives. -/
namespace PlcMonitor

theorem find?_of_nodup {σ : Type*} {items : List σ} {name : σ → String}
    (distinct : (items.map name).Nodup) {item : σ} (h : item ∈ items) :
    items.find? (name · = name item) = some item := by
  obtain ⟨first, found⟩ : ∃ first, items.find? (name · = name item) = some first :=
    Option.isSome_iff_exists.mp (List.find?_isSome.mpr ⟨item, h, by simp⟩)
  have same : name first = name item := by simpa using List.find?_some found
  rw [found, List.inj_on_of_nodup_map distinct (List.mem_of_find?_eq_some found) h same]

theorem mem_iff_lookup {κ α : Type} [BEq κ] [LawfulBEq κ] {entries : List (κ × α)}
    (distinct : (entries.map Prod.fst).Nodup) {key : κ} {value : α} :
    (key, value) ∈ entries ↔ entries.lookup key = some value := by
  induction entries with
  | nil => simp
  | cons entry rest ih =>
    obtain ⟨k, v⟩ := entry
    obtain ⟨fresh, distinct⟩ := List.nodup_cons.mp distinct
    by_cases h : key = k
    · subst h
      have absent : (key, value) ∉ rest := fun hm => fresh (List.mem_map.mpr ⟨_, hm, rfl⟩)
      simp [absent, eq_comm]
    · have hbeq : (key == k) = false := by simpa using h
      simp [List.lookup_cons, h, hbeq, ih distinct]

namespace Table
variable {κ α : Type} [DecidableEq κ] [LT κ] [DecidableLT κ]

omit [DecidableEq κ] [DecidableLT κ] in
def Ascending (table : Table κ α) : Prop := (table.entries.map Prod.fst).Pairwise (· < ·)

theorem get?_insert (table : Table κ α) (key other : κ) (value : α) :
    (table.insert key value).get? other = if other = key then some value else table.get? other := by
  split
  · rename_i h
    rw [h, get?_insert_self]
  · rename_i h
    exact get?_insert_of_ne table value h

theorem get?_insert_eq_some {table : Table κ α} {key other : κ} {value found : α}
    (h : (table.insert key value).get? other = some found) :
    other = key ∧ value = found ∨ other ≠ key ∧ table.get? other = some found := by
  rw [get?_insert] at h
  split at h
  · exact .inl ⟨‹_›, Option.some.inj h⟩
  · exact .inr ⟨‹_›, h⟩

omit [LT κ] [DecidableLT κ] in
theorem get?_mapped {β : Type} (table : Table κ α) (f : κ → α → β) (key : κ) :
    (Table.mk (table.entries.map fun (k, v) => (k, f k v))).get? key =
      (table.get? key).map (f key) := by
  obtain ⟨entries⟩ := table
  unfold get?
  induction entries with
  | nil => rfl
  | cons entry rest ih =>
    obtain ⟨k, v⟩ := entry
    by_cases here : key = k
    · subst here
      simp
    · have hbeq : (key == k) = false := by simpa using here
      simpa [List.lookup_cons, hbeq] using ih

/-- `value` is the last that the pairs bring for the key. -/
def IsLast (pairs : List (κ × α)) (key : κ) (value : α) : Prop :=
  ∃ before after, pairs = before ++ (key, value) :: after ∧ key ∉ after.map Prod.fst

omit [DecidableEq κ] [LT κ] [DecidableLT κ] in
theorem isLast_cons {pair : κ × α} {rest : List (κ × α)} {key : κ} {value : α} :
    IsLast (pair :: rest) key value ↔
      IsLast rest key value ∨ pair = (key, value) ∧ key ∉ rest.map Prod.fst := by
  constructor
  · rintro ⟨before, after, split, later⟩
    cases before with
    | nil =>
      obtain ⟨rfl, rfl⟩ := List.cons.inj split
      exact .inr ⟨rfl, later⟩
    | cons first before =>
      obtain ⟨rfl, rfl⟩ := List.cons.inj split
      exact .inl ⟨before, after, rfl, later⟩
  · rintro (⟨before, after, rfl, later⟩ | ⟨rfl, later⟩)
    · exact ⟨pair :: before, after, rfl, later⟩
    · exact ⟨[], rest, rfl, later⟩

omit [DecidableEq κ] [LT κ] [DecidableLT κ] in
theorem IsLast.mem {pairs : List (κ × α)} {key : κ} {value : α} (last : IsLast pairs key value) :
    (key, value) ∈ pairs := by
  obtain ⟨before, after, rfl, -⟩ := last
  simp

omit [DecidableEq κ] [LT κ] [DecidableLT κ] in
theorem isLast_iff_mem {pairs : List (κ × α)} (distinct : (pairs.map Prod.fst).Nodup) {key : κ}
    {value : α} : IsLast pairs key value ↔ (key, value) ∈ pairs := by
  induction pairs with
  | nil => simp [IsLast]
  | cons pair rest ih =>
    obtain ⟨fresh, distinct⟩ := List.nodup_cons.mp distinct
    rw [isLast_cons, ih distinct, List.mem_cons, or_comm, eq_comm]
    refine or_congr_left (and_iff_left_of_imp ?_)
    rintro rfl
    exact fresh

omit [DecidableEq κ] [LT κ] [DecidableLT κ] in
theorem isLast_relabel {ι : Type} (f : κ → ι) {pairs : List (κ × α)} (key : κ) {value : α}
    (apart : ∀ pair ∈ pairs, f pair.1 = f key → pair.1 = key) :
    IsLast (pairs.map fun (k, v) => (f k, v)) (f key) value ↔ IsLast pairs key value := by
  induction pairs with
  | nil => simp [IsLast]
  | cons pair rest ih =>
    obtain ⟨k, v⟩ := pair
    obtain ⟨here, apart⟩ := List.forall_mem_cons.mp apart
    have first : f k = f key ↔ k = key := ⟨here, congrArg f⟩
    have later : f key ∈ (rest.map fun (k, v) => (f k, v)).map Prod.fst ↔
        key ∈ rest.map Prod.fst := by
      rw [List.map_map, List.mem_map, List.mem_map]
      exact ⟨fun ⟨pair, hpair, same⟩ => ⟨pair, hpair, apart pair hpair same⟩,
        fun ⟨pair, hpair, same⟩ => ⟨pair, hpair, congrArg f same⟩⟩
    rw [List.map_cons, isLast_cons, isLast_cons, ih apart, later, Prod.mk.injEq, Prod.mk.injEq,
      first]

def insertAll (table : Table κ α) (pairs : List (κ × α)) : Table κ α :=
  pairs.foldl (fun table (key, value) => table.insert key value) table

/-- A key has the last value that it is given, or else the one that it had. -/
theorem get?_insertAll_eq_some_iff {table : Table κ α} {pairs : List (κ × α)} {key : κ}
    {value : α} : (table.insertAll pairs).get? key = some value ↔
      IsLast pairs key value ∨ key ∉ pairs.map Prod.fst ∧ table.get? key = some value := by
  induction pairs generalizing table with
  | nil => simp [insertAll, IsLast]
  | cons pair rest ih =>
    obtain ⟨k, v⟩ := pair
    change ((table.insert k v).insertAll rest).get? key = _ ↔ _
    rw [ih, get?_insert, isLast_cons, List.map_cons, List.mem_cons, not_or, Prod.mk.injEq]
    by_cases here : key = k
    · subst here
      simp [and_comm]
    · simp [here, Ne.symm here]

theorem get?_ofList_eq_some_iff {pairs : List (κ × α)} (distinct : (pairs.map Prod.fst).Nodup)
    {key : κ} {value : α} : (ofList pairs).get? key = some value ↔ (key, value) ∈ pairs := by
  refine get?_insertAll_eq_some_iff.trans (Iff.trans (or_iff_left ?_) (isLast_iff_mem distinct))
  rintro ⟨-, none⟩
  cases none

theorem isSome_get?_insertAll {table : Table κ α} {pairs : List (κ × α)} {key : κ} :
    ((table.insertAll pairs).get? key).isSome = true ↔
      key ∈ pairs.map Prod.fst ∨ (table.get? key).isSome = true := by
  induction pairs generalizing table with
  | nil => simp [insertAll]
  | cons pair rest ih =>
    obtain ⟨k, v⟩ := pair
    change (((table.insert k v).insertAll rest).get? key).isSome = true ↔ _
    rw [ih, get?_insert, List.map_cons, List.mem_cons]
    by_cases here : key = k <;> simp [here]

theorem mem_keys_put {key other : κ} {value : α} {entries : List (κ × α)}
    (h : other ∈ (put key value entries).map Prod.fst) :
    other = key ∨ other ∈ entries.map Prod.fst := by
  induction entries with
  | nil => simpa [put] using h
  | cons entry rest ih =>
    unfold put at h
    split at h
    · rename_i he
      subst he
      simpa using h
    · split at h
      · simpa using h
      · rcases List.mem_cons.mp h with h | h
        · exact .inr (by simp [h])
        · exact (ih h).imp_right (List.mem_cons_of_mem _)

section Order
variable [IsTrans κ LT.lt] [Std.Trichotomous (LT.lt : κ → κ → Prop)]

theorem ascending_insert {table : Table κ α} (h : table.Ascending) (key : κ) (value : α) :
    (table.insert key value).Ascending := by
  obtain ⟨entries⟩ := table
  unfold Ascending insert at *
  dsimp only at *
  induction entries with
  | nil => simp [put]
  | cons entry rest ih =>
    obtain ⟨k, v⟩ := entry
    obtain ⟨least, ascending⟩ := List.pairwise_cons.mp h
    unfold put
    split
    · rename_i he
      subst he
      exact h
    · rename_i hne
      split
      · rename_i before
        refine List.pairwise_cons.mpr ⟨?_, h⟩
        intro other hm
        rcases List.mem_cons.mp hm with rfl | hm
        · exact before
        · exact IsTrans.trans _ _ _ before (least other hm)
      · rename_i after
        refine List.pairwise_cons.mpr ⟨?_, ih ascending⟩
        intro other hm
        rcases mem_keys_put hm with rfl | hm
        · exact Decidable.byContradiction fun notBefore =>
            hne (Std.Trichotomous.trichotomous _ _ after notBefore)
        · exact least other hm

theorem ascending_insertAll {table : Table κ α} (h : table.Ascending) (pairs : List (κ × α)) :
    (table.insertAll pairs).Ascending :=
  List.foldlRecOn pairs _ h fun _ ascending pair _ => ascending_insert ascending pair.1 pair.2

theorem ascending_union {first : Table κ α} (h : first.Ascending) (second : Table κ α) :
    (first.union second).Ascending :=
  ascending_insertAll h second.entries

end Order

section Distinct
variable [Std.Irrefl (LT.lt : κ → κ → Prop)]

omit [DecidableLT κ] [DecidableEq κ] in
theorem Ascending.nodup {table : Table κ α} (h : table.Ascending) :
    (table.entries.map Prod.fst).Nodup :=
  h.imp (S := (· ≠ ·)) fun {a b} before (same : a = b) => Std.Irrefl.irrefl b (same ▸ before)

omit [DecidableLT κ] in
theorem mem_entries_iff {table : Table κ α} (h : table.Ascending) {key : κ} {value : α} :
    (key, value) ∈ table.entries ↔ table.get? key = some value :=
  mem_iff_lookup h.nodup

theorem get?_union (first : Table κ α) {second : Table κ α} (h : second.Ascending) (key : κ) :
    (first.union second).get? key = (second.get? key).or (first.get? key) := by
  obtain ⟨entries⟩ := second
  have distinct := h.nodup
  unfold union get? at *
  dsimp only at *
  clear h
  induction entries generalizing first with
  | nil => rfl
  | cons entry rest ih =>
    obtain ⟨k, v⟩ := entry
    obtain ⟨fresh, distinct⟩ := List.nodup_cons.mp distinct
    rw [List.foldl_cons, ih _ distinct]
    by_cases here : key = k
    · subst here
      have absent : rest.lookup key = none :=
        List.lookup_eq_none_iff.mpr fun entry hentry => by
          have : key ≠ entry.1 := fun he => fresh (List.mem_map.mpr ⟨entry, hentry, he.symm⟩)
          simpa using this
      rw [absent, List.lookup_cons_self]
      exact lookup_put_self key v first.entries
    · have hbeq : (key == k) = false := by simpa using here
      rw [List.lookup_cons, hbeq]
      exact congrArg (Option.or _) (lookup_put_of_ne v first.entries here)

end Distinct
end Table
end PlcMonitor
