/-! Tables kept in ascending order of their keys, each key at most once. -/
namespace PlcMonitor

structure Table (κ α : Type) where
  entries : List (κ × α) := []
deriving DecidableEq, Repr

namespace Table
variable {κ α : Type} [DecidableEq κ] [LT κ] [DecidableLT κ]

def empty : Table κ α := ⟨[]⟩

def put (key : κ) (value : α) : List (κ × α) → List (κ × α)
  | [] => [(key, value)]
  | (k, v) :: rest =>
    if key = k then (key, value) :: rest
    else if key < k then (key, value) :: (k, v) :: rest
    else (k, v) :: put key value rest

def insert (table : Table κ α) (key : κ) (value : α) : Table κ α := ⟨put key value table.entries⟩

def get? (table : Table κ α) (key : κ) : Option α := table.entries.lookup key

def contains (table : Table κ α) (key : κ) : Bool := (table.get? key).isSome

def ofList (pairs : List (κ × α)) : Table κ α :=
  pairs.foldl (fun table (key, value) => table.insert key value) empty

/-- All entries of both; where both have a key, that of the second. -/
def union (first second : Table κ α) : Table κ α :=
  second.entries.foldl (fun table (key, value) => table.insert key value) first

theorem lookup_put_self (key : κ) (value : α) (entries : List (κ × α)) :
    (put key value entries).lookup key = some value := by
  induction entries with
  | nil => simp [put]
  | cons entry rest ih =>
    obtain ⟨k, v⟩ := entry
    unfold put
    split
    · simp
    · split
      · simp
      · rename_i hne _
        have hbeq : (key == k) = false := by simpa using hne
        simp [List.lookup_cons, hbeq, ih]

theorem lookup_put_of_ne {key other : κ} (value : α) (entries : List (κ × α)) (h : other ≠ key) :
    (put key value entries).lookup other = entries.lookup other := by
  have hbeq : (other == key) = false := by simpa using h
  induction entries with
  | nil => simp [put, List.lookup_cons, hbeq]
  | cons entry rest ih =>
    obtain ⟨k, v⟩ := entry
    unfold put
    split
    · rename_i hk
      subst hk
      simp [List.lookup_cons, hbeq]
    · split
      · simp [List.lookup_cons, hbeq]
      · simp [List.lookup_cons, ih]

@[simp] theorem get?_insert_self (table : Table κ α) (key : κ) (value : α) :
    (table.insert key value).get? key = some value :=
  lookup_put_self key value table.entries

theorem get?_insert_of_ne (table : Table κ α) {key other : κ} (value : α) (h : other ≠ key) :
    (table.insert key value).get? other = table.get? other :=
  lookup_put_of_ne value table.entries h

omit [LT κ] [DecidableLT κ] in
@[simp] theorem get?_empty (key : κ) : (empty : Table κ α).get? key = none := rfl

end Table
end PlcMonitor
