import PlcMonitor.Proofs.Scan.Cover

/-! Blocks come from the set of the footprints that tags have: sorted, the footprints differ only in
how often each is there, and one that comes again joins the block that holds it already. -/
namespace PlcMonitor
namespace Window

instance : Std.Antisymm fun a b => le a b = true := ⟨fun a b => by
  obtain ⟨first, last⟩ := a
  obtain ⟨first', last'⟩ := b
  simp only [le_iff, mk.injEq]
  omega⟩

section Repeated
variable {maxSize : Nat} (maxGap : Nat) {current next : Window}

theorem joins_self (fits : current.Fits maxSize) :
    joins maxSize maxGap current current = true := by
  have := fits.nonempty
  have := fits.size
  rw [joins_iff]
  omega

variable {maxGap} in
theorem joins_again (joined : joins maxSize maxGap current next = true) :
    joins maxSize maxGap ⟨current.first, max current.last next.last⟩ next = true := by
  rw [joins_iff] at joined ⊢
  dsimp only
  omega

theorem sweep_self (fits : current.Fits maxSize) (rest : List Window) :
    sweep maxSize maxGap current (current :: rest) = sweep maxSize maxGap current rest := by
  rw [sweep, if_pos (joins_self maxGap fits), Nat.max_self]

/-- A window that comes twice in a row may as well come once. -/
theorem sweep_repeated (current : Window) (fits : next.Fits maxSize) (rest : List Window) :
    sweep maxSize maxGap current (next :: next :: rest) =
      sweep maxSize maxGap current (next :: rest) := by
  unfold sweep
  split
  · rename_i joined
    rw [sweep, if_pos (joins_again joined), Nat.max_assoc, Nat.max_self]
  · rw [sweep_self maxGap fits]

def blocks (maxSize maxGap : Nat) : List Window → List Window
  | [] => []
  | first :: rest => sweep maxSize maxGap first rest

section Sorted
variable {windows : List Window} (inOrder : windows.Pairwise (le · · = true))
  (fit : ∀ window ∈ windows, window.Fits maxSize)
include inOrder fit

theorem sweep_dedup (current : Window) :
    sweep maxSize maxGap current windows.dedup = sweep maxSize maxGap current windows := by
  induction windows generalizing current with
  | nil => rfl
  | cons next rest ih =>
    obtain ⟨next_fits, rest_fit⟩ := List.forall_mem_cons.mp fit
    have ih := ih inOrder.of_cons rest_fit
    by_cases repeated : next ∈ rest
    · obtain ⟨later, rfl⟩ := Sorting.next_of_repeated inOrder repeated
      rw [List.dedup_cons_of_mem repeated, ih, sweep_repeated maxGap current next_fits]
    · rw [List.dedup_cons_of_notMem repeated, sweep, sweep, ih, ih]

theorem blocks_dedup : blocks maxSize maxGap windows.dedup = blocks maxSize maxGap windows := by
  induction windows with
  | nil => rfl
  | cons first rest ih =>
    obtain ⟨first_fits, rest_fit⟩ := List.forall_mem_cons.mp fit
    by_cases repeated : first ∈ rest
    · obtain ⟨later, rfl⟩ := Sorting.next_of_repeated inOrder repeated
      rw [List.dedup_cons_of_mem repeated, ih inOrder.of_cons rest_fit, blocks, blocks,
        sweep_self maxGap first_fits]
    · rw [List.dedup_cons_of_notMem repeated, blocks, blocks,
        sweep_dedup maxGap inOrder.of_cons rest_fit]

end Sorted
end Repeated
end Window

theorem blocksOfWindows_eq_blocks {maxSize : Nat} (maxGap : Nat) {windows : List Window}
    (fit : ∀ window ∈ windows, window.Fits maxSize) :
    blocksOfWindows maxSize maxGap windows =
      (Window.blocks maxSize maxGap (Window.sort windows).dedup).map Window.toSpan := by
  have inOrder : (Window.sort windows).Pairwise (Window.le · · = true) :=
    Sorting.pairwise_sort Window.le windows
  rw [Window.blocks_dedup maxGap inOrder fun window hw => fit window (Window.mem_sort.mp hw)]
  unfold blocksOfWindows
  cases Window.sort windows <;> rfl

theorem blocksOfWindows_congr {maxSize : Nat} (maxGap : Nat) {windows others : List Window}
    (fit : ∀ window ∈ windows, window.Fits maxSize)
    (same : ∀ window, window ∈ windows ↔ window ∈ others) :
    blocksOfWindows maxSize maxGap windows = blocksOfWindows maxSize maxGap others := by
  have others_fit : ∀ window ∈ others, window.Fits maxSize :=
    fun window hw => fit window ((same window).mpr hw)
  rw [blocksOfWindows_eq_blocks maxGap fit, blocksOfWindows_eq_blocks maxGap others_fit]
  unfold Window.sort
  rw [Sorting.dedup_sort_congr Window.le same]

/-- Tags with the same footprints have the same blocks, in whatever order they come and however
often a footprint comes again. -/
theorem coveringBlocks_congr {tags others : List TagSpec} (built : ∀ tag ∈ tags, tag.Built)
    (same : ∀ window, window ∈ footprints tags ↔ window ∈ footprints others)
    (maxSize maxGap : UInt16) :
    coveringBlocks tags maxSize maxGap = coveringBlocks others maxSize maxGap := by
  unfold coveringBlocks
  split
  · rfl
  · rename_i small
    have fit := footprint_fits built (UInt16.le_iff_toNat_le.mp (UInt16.not_lt.mp small))
    exact congrArg Except.ok (blocksOfWindows_congr maxGap.toNat fit same)

/-- The footprints of `mixedTags` from last to first, one of them for two tags. -/
def shuffledTags : List TagSpec :=
  [{ path := ["pump"], address := 40010, type := .digital, base := 10, span := ⟨10, 1⟩ },
   { path := ["tank", "level"], address := 40003, type := .integer, base := 3, span := ⟨3, 1⟩ },
   { path := ["flow"], address := 40001, type := .real, base := 1, span := ⟨2, 2⟩ },
   { path := ["valve"], address := 40010, type := .integer, base := 10, span := ⟨10, 1⟩ }]

theorem coveringBlocks_shuffledTags :
    coveringBlocks mixedTags 120 2 = coveringBlocks shuffledTags 120 2 := by
  have there : footprints mixedTags ⊆ footprints shuffledTags := by decide
  have back : footprints shuffledTags ⊆ footprints mixedTags := by decide
  exact coveringBlocks_congr mixedTags_built (fun _ => ⟨(there ·), (back ·)⟩) 120 2

end PlcMonitor
