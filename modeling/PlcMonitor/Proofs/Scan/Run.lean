import Mathlib.Data.List.Chain
import PlcMonitor.Proofs.Sorting
import PlcMonitor.Scan.Block

/-! The blocks of a sweep with the windows that each is made of: every window joins the block that
is open or begins the next one. -/
namespace PlcMonitor

namespace Window

def Holds (window : Window) (register : Nat) : Prop :=
  window.first ≤ register ∧ register ≤ window.last

def Within (inner outer : Window) : Prop :=
  outer.first ≤ inner.first ∧ inner.last ≤ outer.last

/-- At least one register and at most `maxSize`. -/
structure Fits (maxSize : Nat) (window : Window) : Prop where
  nonempty : window.first ≤ window.last
  size : window.last < window.first + maxSize

/-- Among the registers of `window`, no more than `maxGap` in a row are not `owned`. -/
def Dense (owned : Nat → Prop) (maxGap : Nat) (window : Window) : Prop :=
  ∀ start length, (∀ register, start ≤ register → register < start + length →
    window.Holds register ∧ ¬owned register) → length ≤ maxGap

theorem Dense.mono {owned wider : Nat → Prop} {maxGap : Nat} {window : Window}
    (h : window.Dense owned maxGap) (sub : ∀ register, owned register → wider register) :
    window.Dense wider maxGap :=
  fun start length spare => h start length fun register from_start below =>
    (spare register from_start below).imp id (mt (sub register))

theorem le_iff {a b : Window} :
    le a b = true ↔ a.first < b.first ∨ a.first = b.first ∧ a.last ≤ b.last := by
  simp [le]

instance : Std.Total fun a b => le a b = true := ⟨fun a b => by
  simp only [le_iff]
  omega⟩

instance : IsTrans Window fun a b => le a b = true := ⟨fun a b c => by
  simp only [le_iff]
  omega⟩

theorem pairwise_sort (windows : List Window) :
    (sort windows).Pairwise fun a b => a.first ≤ b.first := by
  refine (Sorting.pairwise_sort le windows).imp fun {a b} h => ?_
  have := le_iff.mp h
  omega

theorem mem_sort {windows : List Window} {window : Window} :
    window ∈ sort windows ↔ window ∈ windows :=
  Sorting.mem_sort

section Joining
variable {maxSize maxGap : Nat} {current next : Window}

theorem joins_iff :
    joins maxSize maxGap current next = true ↔
      next.first ≤ current.last + 1 + maxGap ∧
        max current.last next.last - current.first + 1 ≤ maxSize := by
  simp [joins]

theorem last_lt_of_not_joins (fits : current.Fits maxSize) (nonempty : next.first ≤ next.last)
    (h : ¬joins maxSize maxGap current next = true) : current.last < next.last := by
  have := fits.nonempty
  have := fits.size
  rw [joins_iff] at h
  omega

end Joining
end Window

/-- The windows of one block in the order in which they joined it. -/
structure Run where
  head : Window
  others : List Window := []

namespace Run

def members (run : Run) : List Window := run.head :: run.others

def block (run : Run) : Window :=
  ⟨run.head.first, run.others.foldl (fun last window => max last window.last) run.head.last⟩

def add (run : Run) (next : Window) : Run := { run with others := run.others ++ [next] }

@[simp] theorem members_add (run : Run) (next : Window) :
    (run.add next).members = run.members ++ [next] := rfl

theorem block_add (run : Run) (next : Window) :
    (run.add next).block = ⟨run.block.first, max run.block.last next.last⟩ := by
  simp [add, block]

def sweep (maxSize maxGap : Nat) : Run → List Window → List Run
  | run, [] => [run]
  | run, next :: rest =>
    if Window.joins maxSize maxGap run.block next then sweep maxSize maxGap (run.add next) rest
    else run :: sweep maxSize maxGap ⟨next, []⟩ rest

theorem map_block_sweep (maxSize maxGap : Nat) (run : Run) (rest : List Window) :
    (sweep maxSize maxGap run rest).map block = Window.sweep maxSize maxGap run.block rest := by
  induction rest generalizing run with
  | nil => rfl
  | cons next rest ih =>
    unfold sweep Window.sweep
    split
    · rw [ih, block_add]
    · rw [List.map_cons, ih]
      rfl

/-- No window is left out, and none is in two runs. -/
theorem flatMap_members_sweep (maxSize maxGap : Nat) (run : Run) (rest : List Window) :
    (sweep maxSize maxGap run rest).flatMap members = run.members ++ rest := by
  induction rest generalizing run with
  | nil => simp [sweep]
  | cons next rest ih =>
    unfold sweep
    split
    · rw [ih, members_add, List.append_assoc]
      rfl
    · rw [List.flatMap_cons, ih]
      rfl

theorem sweep_eq_cons (maxSize maxGap : Nat) (run : Run) (rest : List Window) :
    ∃ first later, sweep maxSize maxGap run rest = first :: later ∧ first.head = run.head := by
  induction rest generalizing run with
  | nil => exact ⟨run, [], rfl, rfl⟩
  | cons next rest ih =>
    unfold sweep
    split
    · exact ih (run.add next)
    · exact ⟨run, _, rfl, rfl⟩

/-- A block holds its windows, ends with one of them, and keeps to the size and the gap. -/
structure Sound (maxSize maxGap : Nat) (run : Run) : Prop where
  fits : run.block.Fits maxSize
  within : ∀ window ∈ run.members, window.Within run.block
  ends : ∃ window ∈ run.members, window.Holds run.block.last ∧ window.last = run.block.last
  dense : run.block.Dense (fun register => ∃ window ∈ run.members, window.Holds register) maxGap

theorem sound_single {maxSize : Nat} (maxGap : Nat) {window : Window}
    (fits : window.Fits maxSize) : Sound maxSize maxGap ⟨window, []⟩ where
  fits := fits
  within w hw := by
    obtain rfl := List.mem_singleton.mp hw
    exact ⟨Nat.le_refl _, Nat.le_refl _⟩
  ends := ⟨window, List.mem_singleton_self _, ⟨fits.nonempty, Nat.le_refl _⟩, rfl⟩
  dense start length spare := by
    refine Nat.le_of_not_lt fun long => ?_
    obtain ⟨held, free⟩ := spare start (Nat.le_refl _) (by omega)
    exact free ⟨window, List.mem_singleton_self _, held⟩

section Adding
variable {maxSize maxGap : Nat} {run : Run} (h : run.Sound maxSize maxGap) {next : Window}
  (nonempty : next.first ≤ next.last) (near : next.first ≤ run.block.last + 1 + maxGap)
include h

include nonempty in
theorem Sound.ends_add : ∃ window ∈ (run.add next).members,
    window.Holds (run.add next).block.last ∧ window.last = (run.add next).block.last := by
  rw [block_add, members_add]
  rcases Nat.le_total run.block.last next.last with later | earlier
  · refine ⟨next, by simp, ?_⟩
    rw [Nat.max_eq_right later]
    exact ⟨⟨nonempty, Nat.le_refl _⟩, rfl⟩
  · obtain ⟨window, hw, holds⟩ := h.ends
    refine ⟨window, List.mem_append_left _ hw, ?_⟩
    rwa [Nat.max_eq_left earlier]

include near in
/-- Registers without an owner lie before the last window that ended the block, or between it and
the window that is added. -/
theorem Sound.dense_add : (run.add next).block.Dense
    (fun register => ∃ window ∈ (run.add next).members, window.Holds register) maxGap := by
  intro start length spare
  rw [block_add, members_add] at spare
  obtain ⟨final, hfinal, holds, -⟩ := h.ends
  by_cases before : start ≤ run.block.last
  · have stops : start + length ≤ run.block.last := Nat.le_of_not_lt fun beyond =>
      (spare run.block.last before beyond).2 ⟨final, List.mem_append_left _ hfinal, holds⟩
    refine h.dense start length fun register from_start below => ?_
    obtain ⟨⟨first, -⟩, free⟩ := spare register from_start below
    refine ⟨⟨first, by omega⟩, fun ⟨window, hw, owns⟩ => ?_⟩
    exact free ⟨window, List.mem_append_left _ hw, owns⟩
  · refine Nat.le_of_not_lt fun long => ?_
    obtain ⟨⟨-, last⟩, free⟩ := spare (start + length - 1) (by omega) (by omega)
    have beside : ¬next.Holds (start + length - 1) := fun owns => free ⟨next, by simp, owns⟩
    simp only [Window.Holds] at beside last
    omega

end Adding

theorem Sound.add {maxSize maxGap : Nat} {run : Run} (h : run.Sound maxSize maxGap)
    {next : Window} (nonempty : next.first ≤ next.last) (first_le : run.block.first ≤ next.first)
    (joins : Window.joins maxSize maxGap run.block next = true) :
    (run.add next).Sound maxSize maxGap := by
  obtain ⟨near, small⟩ := Window.joins_iff.mp joins
  refine ⟨?_, ?_, h.ends_add nonempty, h.dense_add near⟩
  · have := h.fits.nonempty
    rw [block_add]
    exact ⟨by dsimp only; omega, by dsimp only; omega⟩
  · intro window hw
    rw [block_add]
    rw [members_add] at hw
    rcases List.mem_append.mp hw with hw | hw
    · obtain ⟨first, last⟩ := h.within window hw
      exact ⟨first, Nat.le_trans last (Nat.le_max_left _ _)⟩
    · obtain rfl := List.mem_singleton.mp hw
      exact ⟨first_le, Nat.le_max_right _ _⟩

/-- `later` begins where no window could join `earlier` any more. -/
structure Split (maxSize maxGap : Nat) (windows : List Window) (earlier later : Run) : Prop where
  apart : ¬Window.joins maxSize maxGap earlier.block later.head = true
  first_le : earlier.block.first ≤ later.head.first
  beside : ∀ window ∈ windows, window.last ≤ earlier.block.last ∨
    later.head.first ≤ window.first

/-- A sweep under way: the windows seen end with the open block or before it, and the rest are in
order, none of them before it. -/
structure Sweeping (maxSize maxGap : Nat) (windows : List Window) (run : Run)
    (rest : List Window) : Prop where
  sound : run.Sound maxSize maxGap
  sorted : (run.head :: rest).Pairwise fun a b => a.first ≤ b.first
  fit : ∀ window ∈ rest, window.Fits maxSize
  seen : ∀ window ∈ windows, window.last ≤ run.block.last ∨ window ∈ rest

section Sweep
variable {maxSize maxGap : Nat} {windows : List Window} {run : Run} {next : Window}
  {rest : List Window}

theorem Sweeping.first_le (h : Sweeping maxSize maxGap windows run (next :: rest)) :
    run.block.first ≤ next.first :=
  (List.pairwise_cons.mp h.sorted).1 next List.mem_cons_self

theorem Sweeping.seen_of_le (h : Sweeping maxSize maxGap windows run (next :: rest)) {last : Nat}
    (old : run.block.last ≤ last) (new : next.last ≤ last) :
    ∀ window ∈ windows, window.last ≤ last ∨ window ∈ rest := by
  intro window hw
  rcases h.seen window hw with before | ahead
  · exact .inl (Nat.le_trans before old)
  · rcases List.mem_cons.mp ahead with rfl | later
    · exact .inl new
    · exact .inr later

theorem Sweeping.join (h : Sweeping maxSize maxGap windows run (next :: rest))
    (joins : Window.joins maxSize maxGap run.block next = true) :
    Sweeping maxSize maxGap windows (run.add next) rest where
  sound := h.sound.add (h.fit next List.mem_cons_self).nonempty h.first_le joins
  sorted := h.sorted.sublist (.cons_cons _ (List.sublist_cons_self _ _))
  fit window hw := h.fit window (List.mem_cons_of_mem _ hw)
  seen := by
    rw [block_add]
    exact h.seen_of_le (Nat.le_max_left _ _) (Nat.le_max_right _ _)

theorem Sweeping.split (h : Sweeping maxSize maxGap windows run (next :: rest))
    (apart : ¬Window.joins maxSize maxGap run.block next = true) :
    Sweeping maxSize maxGap windows ⟨next, []⟩ rest where
  sound := sound_single maxGap (h.fit next List.mem_cons_self)
  sorted := h.sorted.of_cons
  fit window hw := h.fit window (List.mem_cons_of_mem _ hw)
  seen := by
    have nonempty := (h.fit next List.mem_cons_self).nonempty
    have beyond := Window.last_lt_of_not_joins h.sound.fits nonempty apart
    exact h.seen_of_le (Nat.le_of_lt beyond) (Nat.le_refl _)

theorem Sweeping.splits (h : Sweeping maxSize maxGap windows run (next :: rest))
    (apart : ¬Window.joins maxSize maxGap run.block next = true) {later : Run}
    (head : later.head = next) : Split maxSize maxGap windows run later := by
  subst head
  refine ⟨apart, h.first_le, fun window hw => (h.seen window hw).imp id fun ahead => ?_⟩
  rcases List.mem_cons.mp ahead with rfl | later
  · exact Nat.le_refl _
  · exact (List.pairwise_cons.mp h.sorted.of_cons).1 window later

theorem Sweeping.all_sound (h : Sweeping maxSize maxGap windows run rest) :
    ∀ r ∈ sweep maxSize maxGap run rest, r.Sound maxSize maxGap := by
  induction rest generalizing run with
  | nil => exact List.forall_mem_singleton.mpr h.sound
  | cons next rest ih =>
    unfold sweep
    split
    · rename_i joins
      exact ih (h.join joins)
    · rename_i apart
      exact List.forall_mem_cons.mpr ⟨h.sound, ih (h.split apart)⟩

theorem Sweeping.isChain (h : Sweeping maxSize maxGap windows run rest) :
    (sweep maxSize maxGap run rest).IsChain (Split maxSize maxGap windows) := by
  induction rest generalizing run with
  | nil => exact .singleton run
  | cons next rest ih =>
    unfold sweep
    split
    · rename_i joins
      exact ih (h.join joins)
    · rename_i apart
      have chain := ih (h.split apart)
      obtain ⟨first, later, hsweep, head⟩ := sweep_eq_cons maxSize maxGap ⟨next, []⟩ rest
      rw [hsweep] at chain ⊢
      exact List.isChain_cons_cons.mpr ⟨h.splits apart head, chain⟩

end Sweep

def ofWindows (maxSize maxGap : Nat) (windows : List Window) : List Run :=
  match Window.sort windows with
  | [] => []
  | first :: rest => sweep maxSize maxGap ⟨first, []⟩ rest

theorem blocksOfWindows_eq (maxSize maxGap : Nat) (windows : List Window) :
    blocksOfWindows maxSize maxGap windows =
      (ofWindows maxSize maxGap windows).map fun run => run.block.toSpan := by
  unfold blocksOfWindows ofWindows
  cases Window.sort windows with
  | nil => rfl
  | cons first rest =>
    change (Window.sweep maxSize maxGap (block ⟨first, []⟩) rest).map Window.toSpan = _
    rw [← map_block_sweep, List.map_map]
    rfl

theorem flatMap_members_ofWindows (maxSize maxGap : Nat) (windows : List Window) :
    (ofWindows maxSize maxGap windows).flatMap members = Window.sort windows := by
  unfold ofWindows
  cases Window.sort windows with
  | nil => rfl
  | cons first rest => exact flatMap_members_sweep maxSize maxGap ⟨first, []⟩ rest

theorem exists_run_iff (maxSize maxGap : Nat) {windows : List Window} {window : Window} :
    (∃ run ∈ ofWindows maxSize maxGap windows, window ∈ run.members) ↔ window ∈ windows := by
  rw [← List.mem_flatMap, flatMap_members_ofWindows, Window.mem_sort]

section Fitting
variable {maxSize : Nat} (maxGap : Nat) {windows : List Window}
  (fit : ∀ window ∈ windows, window.Fits maxSize)
include fit

theorem ofWindows_eq_sweep : ofWindows maxSize maxGap windows = [] ∨
    ∃ run rest, Sweeping maxSize maxGap windows run rest ∧
      ofWindows maxSize maxGap windows = sweep maxSize maxGap run rest := by
  have sorted := Window.pairwise_sort windows
  have mem : ∀ window, window ∈ Window.sort windows ↔ window ∈ windows := fun _ => Window.mem_sort
  unfold ofWindows
  generalize Window.sort windows = inOrder at sorted mem
  cases inOrder with
  | nil => exact .inl rfl
  | cons first rest =>
    have fit : ∀ window ∈ first :: rest, window.Fits maxSize :=
      fun window hw => fit window ((mem window).mp hw)
    obtain ⟨first_fits, rest_fit⟩ := List.forall_mem_cons.mp fit
    refine .inr ⟨⟨first, []⟩, rest, ⟨sound_single maxGap first_fits, sorted, rest_fit, ?_⟩, rfl⟩
    intro window hw
    rcases List.mem_cons.mp ((mem window).mpr hw) with rfl | later
    · exact .inl (Nat.le_refl _)
    · exact .inr later

theorem ofWindows_sound : ∀ run ∈ ofWindows maxSize maxGap windows, run.Sound maxSize maxGap := by
  rcases ofWindows_eq_sweep maxGap fit with none | ⟨run, rest, sweeping, some⟩
  · rw [none]
    exact List.forall_mem_nil _
  · rw [some]
    exact sweeping.all_sound

theorem ofWindows_isChain :
    (ofWindows maxSize maxGap windows).IsChain (Split maxSize maxGap windows) := by
  rcases ofWindows_eq_sweep maxGap fit with none | ⟨run, rest, sweeping, some⟩
  · rw [none]
    exact .nil
  · rw [some]
    exact sweeping.isChain

end Fitting
end Run
end PlcMonitor
