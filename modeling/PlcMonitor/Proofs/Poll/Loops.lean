import Mathlib.Data.List.Induction
import Mathlib.Logic.Function.Basic
import PlcMonitor.Poll.Loop

/-! Loops and stops on one poller, their steps in any order. One flag keeps a second loop out and
tells the first to end, which sees it only after its cycle. So a loop that begins before a stopped
one is back runs beside it, and nothing else lets two loops run. -/
namespace PlcMonitor

/-- What a loop does next: its own step, or the end of its wait. -/
inductive LoopTurn where
  | own
  | tick
  | wake
deriving DecidableEq

def LoopTurn.take : LoopTurn → LoopPhase → PollControl → Option (LoopPhase × PollControl)
  | .own, phase, control => phase.step control
  | .tick, phase, control => phase.tick.map fun phase => (phase, control)
  | .wake, phase, control => phase.takeWake control

/-- A turn is the claim of the flag, or it leaves the flag alone and lets no loop in. -/
theorem LoopTurn.take_cases {turn : LoopTurn} {phase phase' : LoopPhase}
    {control control' : PollControl} (h : turn.take phase control = some (phase', control')) :
    (turn = .own ∧ phase = .entering ∧ control.running = false ∧ phase' = .checking ∧
      control' = { control with running := true }) ∨
    (control'.running = control.running ∧ phase' ≠ .entering ∧
      (phase'.isInside = true → phase.isInside = true)) := by
  obtain ⟨running, wake⟩ := control
  cases turn <;> cases phase <;> cases running <;>
    simp [take, LoopPhase.step, LoopPhase.tick, LoopPhase.takeWake] at h <;>
    grind [LoopPhase.isInside]

/-- Calls of a loop on one poller. Any number of them may come, and each stands before its claim
until it takes its first turn. -/
structure Loops where
  control : PollControl := {}
  phase : Nat → LoopPhase := fun _ => .entering
  /-- Stops that have cleared the flag and not yet left the wake-up. -/
  stopping : Nat := 0

/-- A loop takes a turn, or a stop the first or the second of its steps. -/
inductive LoopMove where
  | turn (loop : Nat) (turn : LoopTurn)
  | clear
  | notify
deriving DecidableEq

namespace Loops

def step (loops : Loops) : LoopMove → Loops
  | .turn i turn =>
    match turn.take (loops.phase i) loops.control with
    | some (phase, control) => { loops with control, phase := Function.update loops.phase i phase }
    | none => loops
  | .clear =>
    { loops with control := loops.control.clearRunning, stopping := loops.stopping + 1 }
  | .notify =>
    if loops.stopping = 0 then loops
    else { loops with control := loops.control.leaveWake, stopping := loops.stopping - 1 }

def after (loops : Loops) (moves : List LoopMove) : Loops := moves.foldl step loops

theorem after_append (loops : Loops) (moves more : List LoopMove) :
    loops.after (moves ++ more) = (loops.after moves).after more := List.foldl_append

theorem after_concat (loops : Loops) (moves : List LoopMove) (move : LoopMove) :
    loops.after (moves ++ [move]) = (loops.after moves).step move := List.foldl_append

def Inside (loops : Loops) (i : Nat) : Prop := (loops.phase i).isInside = true

def Overlaps (loops : Loops) : Prop := ∃ i j, i ≠ j ∧ loops.Inside i ∧ loops.Inside j

/-- Loop `i` has found the flag down and put it up. -/
def claim (loops : Loops) (i : Nat) : Loops :=
  { loops with
    control := { loops.control with running := true }
    phase := Function.update loops.phase i .checking }

/-- The loop finds the flag down when it makes its claim next. -/
structure Claims (loops : Loops) (i : Nat) : Prop where
  enters : loops.phase i = .entering
  down : loops.control.running = false

/-- A step that lets no loop in. Only a stop puts the flag down. -/
structure Quiet (loops : Loops) (move : LoopMove) (next : Loops) : Prop where
  flag : next.control.running = (loops.control.running && move ≠ .clear)
  begun : ∀ j, loops.phase j ≠ .entering → next.phase j ≠ .entering
  inside : ∀ j, next.Inside j → loops.Inside j

theorem Quiet.refl {loops : Loops} {move : LoopMove} (other : move ≠ .clear) :
    Quiet loops move loops := ⟨by simp [other], fun _ => id, fun _ => id⟩

theorem Claims.step_eq {loops : Loops} {i : Nat} (claims : loops.Claims i) :
    loops.step (.turn i .own) = loops.claim i := by
  simp [step, claim, LoopTurn.take, LoopPhase.step, claims.enters, claims.down]

theorem step_cases (loops : Loops) (move : LoopMove) :
    (∃ i, move = .turn i .own ∧ loops.Claims i) ∨ Quiet loops move (loops.step move) := by
  cases move with
  | turn i turn =>
    simp only [step]
    split
    · rename_i phase control taken
      rcases LoopTurn.take_cases taken with ⟨rfl, enters, down, rfl, rfl⟩ | ⟨flag, begun, inside⟩
      · exact .inl ⟨i, rfl, enters, down⟩
      · refine .inr ⟨by simp [flag], fun j now => ?_, fun j now => ?_⟩ <;>
          rcases eq_or_ne j i with rfl | other
        · simpa using begun
        · simpa [other] using now
        · exact inside (by simpa [Inside] using now)
        · simpa [Inside, other] using now
    · exact .inr (.refl nofun)
  | clear => exact .inr ⟨by simp [step, PollControl.clearRunning], fun _ => id, fun _ => id⟩
  | notify =>
    simp only [step]
    split
    · exact .inr (.refl nofun)
    · exact .inr ⟨by simp [PollControl.leaveWake], fun _ => id, fun _ => id⟩

theorem Inside.ne_entering {loops : Loops} {j : Nat} (inside : loops.Inside j) :
    loops.phase j ≠ .entering := by
  intro enters
  rw [Inside, enters] at inside
  cases inside

@[simp] theorem claim_phase_self (loops : Loops) (i : Nat) :
    (loops.claim i).phase i = .checking := Function.update_self ..

theorem claim_phase_of_ne (loops : Loops) {i j : Nat} (other : j ≠ i) :
    (loops.claim i).phase j = loops.phase j := Function.update_of_ne other ..

theorem Claims.overlaps {loops : Loops} {i j : Nat} (claims : loops.Claims i)
    (inside : loops.Inside j) : (loops.step (.turn i .own)).Overlaps := by
  have other : j ≠ i := by
    rintro rfl
    exact inside.ne_entering claims.enters
  rw [claims.step_eq]
  refine ⟨j, i, other, ?_, ?_⟩
  · rwa [Inside, claim_phase_of_ne loops other]
  · rw [Inside, claim_phase_self]
    rfl

/-- Of two loops that are inside when one has come in, the other was inside before. -/
theorem exists_inside_of_claim {loops : Loops} {i : Nat} (overlaps : (loops.claim i).Overlaps) :
    ∃ j, loops.Inside j := by
  obtain ⟨j, k, other, first, second⟩ := overlaps
  by_cases here : j = i
  · subst here
    exact ⟨k, by rwa [Inside, claim_phase_of_ne loops other.symm] at second⟩
  · exact ⟨j, by rwa [Inside, claim_phase_of_ne loops here] at first⟩

theorem running_step_own {loops : Loops} {i : Nat} (enters : loops.phase i = .entering) :
    (loops.step (.turn i .own)).control.running = true := by
  simp [step, LoopTurn.take, LoopPhase.step, enters]

section Begun
variable {loops : Loops} {j : Nat} (begun : loops.phase j ≠ .entering)
include begun

theorem Claims.phase_claim {i : Nat} (claims : loops.Claims i) :
    (loops.claim i).phase j = loops.phase j := by
  refine claim_phase_of_ne loops ?_
  rintro rfl
  exact begun claims.enters

theorem begun_step (move : LoopMove) : (loops.step move).phase j ≠ .entering := by
  rcases loops.step_cases move with ⟨i, rfl, claims⟩ | quiet
  · rwa [claims.step_eq, claims.phase_claim begun]
  · exact quiet.begun j begun

theorem inside_of_step {move : LoopMove} (now : (loops.step move).Inside j) : loops.Inside j := by
  rcases loops.step_cases move with ⟨i, rfl, claims⟩ | quiet
  · rwa [claims.step_eq, Inside, claims.phase_claim begun] at now
  · exact quiet.inside j now

theorem inside_of_after {moves : List LoopMove} (later : (loops.after moves).Inside j) :
    loops.Inside j := by
  induction moves generalizing loops with
  | nil => exact later
  | cons move rest ih => exact inside_of_step begun (ih (begun_step begun move) later)

end Begun

/-- With the flag down, a loop that makes its claim comes in beside one that is still inside, unless
another has come in before it. -/
theorem overlaps_of_down (loops : Loops) {between : List LoopMove} {i j : Nat}
    (down : loops.control.running = false) (begun : loops.phase j ≠ .entering)
    (stays : (loops.after between).Inside j) (enters : (loops.after between).phase i = .entering) :
    ∃ first, first <+: between ++ [.turn i .own] ∧ (loops.after first).Overlaps := by
  induction between generalizing loops with
  | nil =>
    have claims : loops.Claims i := ⟨enters, down⟩
    exact ⟨[.turn i .own], List.prefix_rfl, claims.overlaps stays⟩
  | cons move rest ih =>
    rcases loops.step_cases move with ⟨k, rfl, claims⟩ | quiet
    · exact ⟨[.turn k .own], by simp, claims.overlaps (inside_of_after begun stays)⟩
    · have still := quiet.flag.trans (by rw [down, Bool.false_and])
      obtain ⟨first, begins, overlaps⟩ :=
        ih (loops.step move) still (begun_step begun move) stays enters
      exact ⟨move :: first, List.cons_prefix_cons.mpr ⟨rfl, begins⟩, overlaps⟩

/-- While a loop is inside, the flag is down only because a stop cleared it. -/
theorem exists_clear {moves : List LoopMove} {j : Nat}
    (down : (after {} moves).control.running = false) (inside : (after {} moves).Inside j) :
    ∃ before between, moves = before ++ .clear :: between ∧ (after {} before).Inside j := by
  induction moves using List.reverseRecOn with
  | nil => cases inside
  | append_singleton moves move ih =>
    rw [after_concat] at down inside
    rcases (after {} moves).step_cases move with ⟨i, rfl, claims⟩ | quiet
    · rw [running_step_own claims.enters] at down
      cases down
    · have before := quiet.inside j inside
      by_cases cleared : move = .clear
      · subst cleared
        exact ⟨moves, [], rfl, before⟩
      · have still : (after {} moves).control.running = false := by
          simpa [cleared] using quiet.flag.symm.trans down
        obtain ⟨first, between, rfl, here⟩ := ih still before
        exact ⟨first, between ++ [move], by simp, here⟩

/-- Loop `i` makes its claim next, while loop `j`, which was inside when a stop cleared the flag, is
still not back. -/
structure Restarts (before between : List LoopMove) (i j : Nat) : Prop where
  stopped : (after {} before).Inside j
  stays : (after {} (before ++ .clear :: between)).Inside j
  enters : (after {} (before ++ .clear :: between)).phase i = .entering

theorem Restarts.overlaps {before between : List LoopMove} {i j : Nat}
    (restarts : Restarts before between i j) :
    ∃ moves, moves <+: before ++ .clear :: between ++ [.turn i .own] ∧
      (after {} moves).Overlaps := by
  obtain ⟨stopped, stays, enters⟩ := restarts
  rw [after_append] at stays enters
  obtain ⟨first, begins, overlaps⟩ := overlaps_of_down ((after {} before).step .clear) rfl
    (begun_step stopped.ne_entering _) stays enters
  refine ⟨before ++ .clear :: first, ?_, ?_⟩
  · rw [List.append_assoc]
    exact (List.prefix_append_right_inj before).mpr (List.cons_prefix_cons.mpr ⟨rfl, begins⟩)
  · rw [after_append]
    exact overlaps

theorem Overlaps.exists_restarts {moves : List LoopMove} (overlaps : (after {} moves).Overlaps) :
    ∃ before between i j, before ++ .clear :: between ++ [.turn i .own] <+: moves ∧
      Restarts before between i j := by
  induction moves using List.reverseRecOn with
  | nil =>
    obtain ⟨_, _, -, inside, -⟩ := overlaps
    cases inside
  | append_singleton moves move ih =>
    rw [after_concat] at overlaps
    rcases (after {} moves).step_cases move with ⟨i, rfl, claims⟩ | quiet
    · rw [claims.step_eq] at overlaps
      obtain ⟨j, inside⟩ := exists_inside_of_claim overlaps
      obtain ⟨before, between, rfl, stopped⟩ := exists_clear claims.down inside
      exact ⟨before, between, i, j, List.prefix_rfl, stopped, inside, claims.enters⟩
    · obtain ⟨i, j, other, first, second⟩ := overlaps
      obtain ⟨before, between, k, l, begins, restarts⟩ :=
        ih ⟨i, j, other, quiet.inside i first, quiet.inside j second⟩
      exact ⟨before, between, k, l, begins.trans (List.prefix_append _ _), restarts⟩

/-- Each claim but the first takes a stop before it. -/
theorem length_le_of_inside {moves : List LoopMove} {loops : List Nat} (distinct : loops.Nodup)
    (inside : ∀ i ∈ loops, (after {} moves).Inside i) :
    loops.length ≤ moves.count .clear + (after {} moves).control.running.toNat := by
  induction moves using List.reverseRecOn generalizing loops with
  | nil =>
    cases loops with
    | nil => exact Nat.zero_le _
    | cons i rest => cases inside i List.mem_cons_self
  | append_singleton moves move ih =>
    rw [after_concat] at inside ⊢
    rw [List.count_append]
    rcases (after {} moves).step_cases move with ⟨i, rfl, claims⟩ | quiet
    · rw [claims.step_eq] at inside
      rw [running_step_own claims.enters]
      have others := ih (distinct.erase i) fun j hj => by
        have other := (distinct.mem_erase_iff.mp hj).1
        have now := inside j (List.mem_of_mem_erase hj)
        rwa [Inside, claim_phase_of_ne _ other] at now
      have one : loops.length - 1 ≤ (loops.erase i).length := List.le_length_erase
      simp only [claims.down, Bool.toNat_false, Bool.toNat_true] at others ⊢
      omega
    · have before := ih distinct fun j hj => quiet.inside j (inside j hj)
      rw [quiet.flag]
      by_cases cleared : move = .clear
      · have := Bool.toNat_le (after {} moves).control.running
        simp [cleared]
        omega
      · simpa [cleared] using before

/-- Two loops run at once just if a loop makes its claim after a stop while one that was stopped is
still not back. There are never more of them than one and one for each stop. -/
theorem overlaps_iff_restarts (moves : List LoopMove) :
    ((∃ before, before <+: moves ∧ (after {} before).Overlaps) ↔
      ∃ before between i j, before ++ .clear :: between ++ [.turn i .own] <+: moves ∧
        Restarts before between i j) ∧
    ∀ loops : List Nat, loops.Nodup → (∀ i ∈ loops, (after {} moves).Inside i) →
      loops.length ≤ moves.count .clear + 1 := by
  refine ⟨⟨?_, ?_⟩, fun loops distinct inside => ?_⟩
  · rintro ⟨before, begins, overlaps⟩
    obtain ⟨first, between, i, j, within, restarts⟩ := overlaps.exists_restarts
    exact ⟨first, between, i, j, within.trans begins, restarts⟩
  · rintro ⟨before, between, i, j, begins, restarts⟩
    obtain ⟨first, within, overlaps⟩ := restarts.overlaps
    exact ⟨first, within.trans begins, overlaps⟩
  · have bound := length_le_of_inside distinct inside
    have := Bool.toNat_le (after {} moves).control.running
    omega

/-- A loop is stopped during its cycle, and another makes its claim before the first is back. -/
def restart : List LoopMove :=
  [.turn 0 .own, .turn 0 .own, .turn 0 .tick, .turn 0 .own, .clear, .notify, .turn 1 .own]

theorem restart_overlaps :
    ¬∀ (moves : List LoopMove) (i j : Nat),
      (after {} moves).Inside i → (after {} moves).Inside j → i = j := by
  intro claimed
  exact absurd (claimed restart 0 1 rfl rfl) (by decide)

end Loops

namespace Watch
variable {τ σ : Type}

def loops (watch : Watch τ σ) : Loops where
  control := watch.poller.control
  phase := Function.update (fun _ => .entering) 0 watch.phase

theorem loops_takePhase {watch : Watch τ σ} (turn : LoopTurn) {next : LoopPhase × PollControl}
    (taken : turn.take watch.phase watch.poller.control = some next) :
    (watch.takePhase next).loops = watch.loops.after [.turn 0 turn] := by
  simp [Loops.after, Loops.step, loops, takePhase, withControl, taken]

theorem loops_tick (watch : Watch τ σ) :
    watch.tick.loops = watch.loops.after [.turn 0 .tick] := by
  simp only [Loops.after, Loops.step, loops, tick, LoopTurn.take, List.foldl_cons, List.foldl_nil,
    Function.update_self]
  cases watch.phase.tick <;> simp

theorem exists_moves_endWait (watch : Watch τ σ) :
    ∃ moves, watch.endWait.loops = watch.loops.after moves := by
  unfold endWait
  split
  · rename_i next taken
    exact ⟨_, loops_takePhase .wake taken⟩
  · split
    · split
      · exact ⟨[.clear, .notify], rfl⟩
      · exact ⟨_, loops_tick _⟩
    · exact ⟨_, loops_tick _⟩

theorem exists_moves_advance (wires : Transport τ) (alarms : AlarmStore σ) (clocks : Clocks)
    (now : Instant) (watch : Watch τ σ) :
    ∃ moves, (watch.advance wires alarms clocks now).loops = watch.loops.after moves := by
  unfold advance
  extract_lets settled
  have first : ∃ moves, settled.loops = watch.loops.after moves := by
    unfold settled
    split
    · unfold stopIfDue
      split
      · exact ⟨[.clear, .notify], rfl⟩
      · exact ⟨[], rfl⟩
    · exact watch.exists_moves_endWait
    · exact ⟨[], rfl⟩
  clear_value settled
  obtain ⟨moves, reached⟩ := first
  refine ⟨moves ++ [.turn 0 .own], ?_⟩
  rw [Loops.after_append, ← reached]
  split
  · rename_i next taken
    exact loops_takePhase .own taken
  · rename_i idle
    simp [Loops.after, Loops.step, loops, LoopTurn.take, idle]

/-- What a loop does in time is among what any number of loops may do. -/
theorem exists_moves_runFor (wires : Transport τ) (alarms : AlarmStore σ) (clocks : Clocks)
    (now : Instant) (fuel : Nat) (watch : Watch τ σ) :
    ∃ moves, (watch.runFor wires alarms clocks now fuel).loops = watch.loops.after moves := by
  induction fuel generalizing watch with
  | zero => exact ⟨[], rfl⟩
  | succ fuel ih =>
    unfold runFor
    split
    · exact ⟨[], rfl⟩
    · obtain ⟨first, advanced⟩ := watch.exists_moves_advance wires alarms clocks now
      obtain ⟨rest, reached⟩ := ih (watch.advance wires alarms clocks now)
      exact ⟨first ++ rest, by rw [reached, advanced, Loops.after_append]⟩

end Watch
end PlcMonitor
