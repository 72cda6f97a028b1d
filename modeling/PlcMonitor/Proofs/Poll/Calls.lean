import PlcMonitor.Poll.Poller

/-! A polling cycle as the calls it makes: every block is read and every observation recorded once,
in order, each on the state that the call before it left. -/
namespace PlcMonitor

/-- Calls made one after another, each with what came of it. -/
inductive Calls {α β σ : Type} (call : α → σ → β × σ) : List (α × β) → σ → σ → Prop where
  | nil (state : σ) : Calls call [] state state
  | cons (asked : α) {made : List (α × β)} {state final : σ}
      (rest : Calls call made (call asked state).2 final) :
      Calls call ((asked, (call asked state).1) :: made) state final

/-- What every call keeps holds in the end, and what every call ensures holds of each. -/
theorem Calls.keeps {α β σ : Type} {call : α → σ → β × σ} {made : List (α × β)}
    {start final : σ} (h : Calls call made start final) (kept : σ → Prop) (ensured : α → β → Prop)
    (begins : kept start) (step : ∀ asked ∈ made.map Prod.fst, ∀ state, kept state →
      ensured asked (call asked state).1 ∧ kept (call asked state).2) :
    (∀ entry ∈ made, ensured entry.1 entry.2) ∧ kept final := by
  induction h with
  | nil state => exact ⟨List.forall_mem_nil _, begins⟩
  | @cons asked made state final rest ih =>
    obtain ⟨own, steps⟩ := List.forall_mem_cons.mp step
    obtain ⟨ensures, stays⟩ := own state begins
    obtain ⟨others, ends⟩ := ih stays steps
    exact ⟨List.forall_mem_cons.mpr ⟨ensures, others⟩, ends⟩

def BlockRead.entry (read : BlockRead) : Span × Except DeviceFault (List UInt16) :=
  (read.block, read.outcome)

namespace Cycle

section State
variable {σ : Type}

theorem readBlocks_calls (read : Span → σ → Except DeviceFault (List UInt16) × σ)
    (blocks : List Span) (state : σ) :
    Calls read ((readBlocks read blocks state).1.map BlockRead.entry) state
      (readBlocks read blocks state).2 := by
  induction blocks generalizing state with
  | nil => exact .nil state
  | cons block rest ih => exact .cons block (ih (read block state).2)

theorem map_block_readBlocks (read : Span → σ → Except DeviceFault (List UInt16) × σ)
    (blocks : List Span) (state : σ) :
    (readBlocks read blocks state).1.map (·.block) = blocks := by
  induction blocks generalizing state with
  | nil => rfl
  | cons block rest ih => exact congrArg (block :: ·) (ih (read block state).2)

end State

section Plant
variable {τ σ : Type} (plant : Plant τ σ)

/-- Reading blocks changes the fleet alone, by one read of the device after another. -/
theorem readBlocks_eq (wires : Transport τ) (device : String) (blocks : List Span) :
    ∃ reads fleet,
      readBlocks (Plant.readBlock wires device) blocks plant = (reads, { plant with fleet }) ∧
      Calls (fun block fleet => fleet.perform wires device (.readBlock block.first block.count))
        (reads.map BlockRead.entry) plant.fleet fleet := by
  induction blocks generalizing plant with
  | nil => exact ⟨[], plant.fleet, rfl, .nil _⟩
  | cons block rest ih =>
    obtain ⟨reads, fleet, reached, made⟩ := ih (Plant.readBlock wires device block plant).2
    let first : BlockRead := ⟨block, (Plant.readBlock wires device block plant).1⟩
    exact ⟨first :: reads, fleet, congrArg (fun ran => (first :: ran.1, ran.2)) reached,
      .cons block made⟩

/-- Recording observations changes the alarm store and adds to what is announced, by one script
after another. -/
theorem recordAll_eq (alarms : AlarmStore σ) (seen : List Observation) :
    ∃ outcomes store announced,
      recordAll (Plant.record alarms) seen plant = (outcomes, { plant with store, announced }) ∧
      outcomes.length = seen.length ∧
      Calls (fun seen (store, announced) =>
          let (outcome, store, events) := (Lifecycle.setState plant.retries seen).run alarms store
          (outcome, store, announced ++ events))
        (seen.zip outcomes) (plant.store, plant.announced) (store, announced) := by
  induction seen generalizing plant with
  | nil => exact ⟨[], plant.store, plant.announced, rfl, rfl, .nil _⟩
  | cons observation rest ih =>
    obtain ⟨outcomes, store, announced, reached, each, made⟩ :=
      ih (Plant.record alarms observation plant).2
    let first := (Plant.record alarms observation plant).1
    refine ⟨first :: outcomes, store, announced,
      congrArg (fun ran => (first :: ran.1, ran.2)) reached,
      congrArg (· + 1) each, ?_⟩
    exact @Calls.cons _ _ _ _ observation _ (plant.store, plant.announced) _ made

end Plant
end Cycle

theorem Poller.bus_poll {τ σ : Type} (wires : Transport τ) (alarms : AlarmStore σ)
    (clocks : Clocks) (now : Instant) (poller : Poller) (plant : Plant τ σ) :
    (poller.poll wires alarms clocks now plant).2.2.bus =
      Cycle.publishAll poller.device plant.bus (Cycle.decodeAll poller.plan
        (Cycle.readBlocks (Plant.readBlock wires poller.device) poller.plan.blocks plant).1) := by
  obtain ⟨reads, fleet, reading, -⟩ :=
    Cycle.readBlocks_eq plant wires poller.device poller.plan.blocks
  unfold poll
  rw [reading]
  dsimp only
  generalize Cycle.observations _ _ _ _ _ = seen
  generalize Cycle.publishAll _ _ _ = bus
  obtain ⟨outcomes, store, announced, recording, -⟩ :=
    Cycle.recordAll_eq { plant with fleet, bus } alarms seen
  rw [recording]

end PlcMonitor
