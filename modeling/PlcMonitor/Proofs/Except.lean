/-! Steps that may fail: the whole gives a result just when each step does, and else it fails as the
first of them that fails. -/
namespace PlcMonitor
variable {ε φ α β : Type}

theorem bind_eq_ok {first : Except ε α} {next : α → Except ε β} {b : β} :
    first >>= next = .ok b ↔ ∃ a, first = .ok a ∧ next a = .ok b := by
  cases first with
  | error fault => simp [bind, Except.bind]
  | ok a => simp [bind, Except.bind]

theorem mapError_eq_ok {result : Except ε α} {f : ε → φ} {a : α} :
    result.mapError f = .ok a ↔ result = .ok a := by
  cases result with
  | error fault => exact ⟨nofun, nofun⟩
  | ok b =>
    change Except.ok b = Except.ok a ↔ _
    rw [Except.ok.injEq, Except.ok.injEq]

theorem mapError_eq_error {result : Except ε α} {f : ε → φ} {fault : φ} :
    result.mapError f = .error fault ↔ ∃ cause, result = .error cause ∧ f cause = fault := by
  cases result with
  | error cause =>
    change Except.error (f cause) = Except.error fault ↔ _
    simp
  | ok a => exact ⟨nofun, nofun⟩

theorem map_eq_ok {result : Except ε α} {f : α → β} {b : β} :
    result.map f = .ok b ↔ ∃ a, result = .ok a ∧ f a = b := by
  cases result with
  | error fault => exact ⟨nofun, nofun⟩
  | ok a =>
    change Except.ok (f a) = Except.ok b ↔ _
    simp

theorem mapM_eq_ok {f : α → Except ε β} {g : α → β} {items : List α}
    (each : ∀ a ∈ items, f a = .ok (g a)) : items.mapM f = .ok (items.map g) := by
  induction items with
  | nil => rfl
  | cons a rest ih =>
    obtain ⟨first, each⟩ := List.forall_mem_cons.mp each
    rw [List.mapM_cons, first, ih each]
    rfl

section ComesTo
variable {good : α → Prop}

/-- Going through items one comes to `a`, for all before it are good. -/
def ComesTo (good : α → Prop) (items : List α) (a : α) : Prop :=
  ∃ before after, items = before ++ a :: after ∧ ∀ b ∈ before, good b

theorem not_comesTo_nil {a : α} : ¬ComesTo good [] a := by
  rintro ⟨before, after, split, -⟩
  simp at split

theorem comesTo_cons {a b : α} {rest : List α} :
    ComesTo good (b :: rest) a ↔ b = a ∨ good b ∧ ComesTo good rest a := by
  constructor
  · rintro ⟨_ | ⟨c, before⟩, after, split, each⟩
    · exact .inl (List.cons.inj split).1
    · obtain ⟨rfl, rfl⟩ := List.cons.inj split
      obtain ⟨own, each⟩ := List.forall_mem_cons.mp each
      exact .inr ⟨own, before, after, rfl, each⟩
  · rintro (rfl | ⟨own, before, after, rfl, each⟩)
    · exact ⟨[], rest, rfl, List.forall_mem_nil _⟩
    · exact ⟨b :: before, after, rfl, List.forall_mem_cons.mpr ⟨own, each⟩⟩

/-- Steps over items fail as the first of them does that fails. -/
theorem mapM_eq_error_iff {f : α → Except ε β} {items : List α} {fault : ε} :
    items.mapM f = .error fault ↔
      ∃ a, ComesTo (fun b => ∃ result, f b = .ok result) items a ∧ f a = .error fault := by
  induction items with
  | nil => exact iff_of_false nofun fun ⟨_, h, _⟩ => not_comesTo_nil h
  | cons b rest ih =>
    rw [List.mapM_cons]
    simp only [comesTo_cons]
    cases own : f b with
    | error cause =>
      constructor
      · rintro ⟨⟩
        exact ⟨b, .inl rfl, own⟩
      · rintro ⟨a, rfl | ⟨⟨result, h⟩, -⟩, failed⟩
        · cases own.symm.trans failed
          rfl
        · cases h
    | ok result =>
      have later : (Except.ok result >>= fun own => rest.mapM f >>= fun others =>
          pure (own :: others)) = .error fault ↔ rest.mapM f = .error fault := by
        cases rest.mapM f <;> simp [bind, Except.bind, pure, Except.pure]
      rw [later, ih]
      constructor
      · rintro ⟨a, come, failed⟩
        exact ⟨a, .inr ⟨⟨result, rfl⟩, come⟩, failed⟩
      · rintro ⟨a, rfl | ⟨-, come⟩, failed⟩
        · rw [own] at failed
          cases failed
        · exact ⟨a, come, failed⟩

end ComesTo

end PlcMonitor
