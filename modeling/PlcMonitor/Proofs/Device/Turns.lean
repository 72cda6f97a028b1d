import PlcMonitor.Proofs.Device.Effect
import PlcMonitor.Proofs.Table

/-! Tasks on one device take turns. Each finds the registers as the one before it left them, so
what they come to in the end is the work of the acknowledged writes, in the order of the turns. -/
namespace PlcMonitor
variable {τ : Type}

theorem Operation.Leaves.unique {operation : Operation} {before after other : Memory}
    (h : operation.Leaves before after) (h' : operation.Leaves before other) : after = other := by
  cases operation with
  | readBlock | readRegister | readBit | writeRegister => exact Eq.trans h (Eq.symm h')
  | writeBit address bit value verify =>
    funext register
    by_cases here : register = address
    · subst here
      exact h.1.unique h'.1
    · rw [h.2 register here, h'.2 register here]

namespace Fleet

/-- A task that has had its turn, and the calls that it made if it is an operation. -/
structure Turn where
  device : String
  task : Task
  calls : List WireEvent

/-- What a turn makes of the registers of a device. -/
inductive Turn.Leaves (device : String) (before : Memory) : Turn → Memory → Prop where
  | work {operation : Operation} {calls : List WireEvent} {after : Memory} :
    Acknowledged (successes calls) → operation.Leaves before after →
    Leaves device before ⟨device, .perform operation, calls⟩ after
  | nothing {turn : Turn} : (turn.device = device → ¬Acknowledged (successes turn.calls)) →
    Leaves device before turn before

/-- Turn by turn, the registers come from the first memory to the last. -/
def Accounted (device : String) : (first : Memory) → List Turn → (last : Memory) → Prop
  | first, [], last => last = first
  | first, turn :: rest, last =>
    ∃ after, turn.Leaves device first after ∧ Accounted device after rest last

theorem Turn.Leaves.of_same {device : String} {turn : Turn} {before after : Memory}
    (idle : turn.device = device → ¬Acknowledged (successes turn.calls)) (same : after = before) :
    turn.Leaves device before after := by
  subst same
  exact .nothing idle

theorem Turn.Leaves.unique {device : String} {turn : Turn} {before after other : Memory}
    (h : turn.Leaves device before after) (h' : turn.Leaves device before other) :
    after = other := by
  cases h with
  | work acknowledged leaves =>
    cases h' with
    | work _ leaves' => exact leaves.unique leaves'
    | nothing idle => exact absurd acknowledged (idle rfl)
  | nothing idle =>
    cases h' with
    | work acknowledged leaves => exact absurd acknowledged (idle rfl)
    | nothing => rfl

/-- The turns say what the last memory is. -/
theorem Accounted.unique {device : String} {turns : List Turn} {first last other : Memory}
    (h : Accounted device first turns last) (h' : Accounted device first turns other) :
    last = other := by
  induction turns generalizing first with
  | nil => exact Eq.trans h (Eq.symm h')
  | cons turn rest ih =>
    obtain ⟨after, leaves, h⟩ := h
    obtain ⟨after', leaves', h'⟩ := h'
    obtain rfl := leaves.unique leaves'
    exact ih h h'

/-- The calls of a task begun at `now`. Only operations ask for registers. -/
def taskCalls (wires : Transport τ) (fleet : Fleet τ) (device : String) (now : Nat) :
    Task → List WireEvent
  | .perform operation =>
    match operation.check, fleet.links.get? device with
    | .ok (), some link => operation.calls wires { link with clock := now }
    | _, _ => []
  | .ensureConnected | .health | .healthOfAll | .names | .shutdown => []

/-- The turns of tasks begun at once, as `runTasks` takes them. -/
def turns (wires : Transport τ) (start : Nat) (free : Table String Nat) (fleet : Fleet τ) :
    List (String × Task) → List Turn
  | [] => []
  | (device, task) :: rest =>
    let begun := (free.get? device).getD start
    let ended := (fleet.runTask wires device task begun).2
    ⟨device, task, fleet.taskCalls wires device begun task⟩ ::
      turns wires start (free.insert device ended.1)
        { ended.2 with clock := max ended.2.clock ended.1 } rest

/-- The turns of tasks begun at once on a fleet that nobody is using. -/
def concurrentTurns (wires : Transport τ) (fleet : Fleet τ) (tasks : List (String × Task)) :
    List Turn :=
  fleet.withoutGlimpses.turns wires fleet.clock Table.empty tasks

theorem turns_tasks (wires : Transport τ) (start : Nat) (free : Table String Nat)
    (fleet : Fleet τ) (tasks : List (String × Task)) :
    (fleet.turns wires start free tasks).map (fun turn => (turn.device, turn.task)) = tasks := by
  induction tasks generalizing free fleet with
  | nil => rfl
  | cons entry rest ih => exact congrArg (entry :: ·) (ih _ _)

theorem not_acknowledged_nil : ¬Acknowledged (successes []) := by
  simp [Acknowledged, successes]

section Memory
variable {wires : Transport τ} {memory : τ → Memory} {sane : τ → Prop}
  (h : wires.IsMemory memory sane)
include h

theorem performAt_leaves {fleet : Fleet τ} {device : String} {link : Link τ}
    (known : fleet.links.get? device = some link) (start : sane link.wire) (user : String)
    (operation : Operation) (now : Nat) :
    ∃ after, (fleet.performAt wires user operation now).2.2.links.get? device = some after ∧
      sane after.wire ∧
      Turn.Leaves device (memory link.wire)
        ⟨user, .perform operation, fleet.taskCalls wires user now (.perform operation)⟩
        (memory after.wire) := by
  simp only [performAt, taskCalls]
  cases checked : operation.check with
  | error cause => exact ⟨link, known, start, .nothing fun _ => not_acknowledged_nil⟩
  | ok done =>
    simp only [useLink]
    cases found : fleet.links.get? user with
    | none => exact ⟨link, known, start, .nothing fun _ => not_acknowledged_nil⟩
    | some used =>
      by_cases here : user = device
      · subst here
        obtain rfl : used = link := Option.some.inj (found.symm.trans known)
        obtain ⟨sound, effect⟩ := @Operation.perform_leaves _ _ _ _ h _ checked
          { used with clock := now } start
        refine ⟨_, Table.get?_insert_self .., sound, ?_⟩
        rcases effect with ⟨acknowledged, leaves⟩ | ⟨idle, same⟩
        · exact .work acknowledged leaves
        · exact .of_same (fun _ => idle) same
      · refine ⟨link, ?_, start, .nothing fun same => absurd same here⟩
        exact (Table.get?_insert_of_ne _ _ (Ne.symm here)).trans known

/-- A turn does to the registers of a device what its calls say, and leaves the link in order. -/
theorem runTask_leaves {fleet : Fleet τ} {device : String} {link : Link τ}
    (known : fleet.links.get? device = some link) (start : sane link.wire) (user : String)
    (task : Task) (now : Nat) :
    ∃ after, (fleet.runTask wires user task now).2.2.links.get? device = some after ∧
      sane after.wire ∧
      Turn.Leaves device (memory link.wire) ⟨user, task, fleet.taskCalls wires user now task⟩
        (memory after.wire) := by
  cases task with
  | perform operation => exact performAt_leaves h known start user operation now
  | ensureConnected =>
    simp only [runTask, ensureConnectedAt]
    cases found : fleet.links.get? user with
    | none => exact ⟨link, known, start, .nothing fun _ => not_acknowledged_nil⟩
    | some used =>
      by_cases here : user = device
      · subst here
        obtain rfl : used = link := Option.some.inj (found.symm.trans known)
        obtain ⟨sound, same⟩ := @Link.ensureConnected_keeps _ _ _ (h.keepsIdle (memory used.wire))
          { used with clock := now } ⟨start, rfl⟩
        exact ⟨_, Table.get?_insert_self .., sound, .of_same (fun _ => not_acknowledged_nil) same⟩
      · refine ⟨link, ?_, start, .nothing fun same => absurd same here⟩
        exact (Table.get?_insert_of_ne _ _ (Ne.symm here)).trans known
  | health | healthOfAll | names =>
    exact ⟨link, known, start, .nothing fun _ => not_acknowledged_nil⟩
  | shutdown =>
    refine ⟨link.shutdown wires, ?_, h.keeps.close start,
      .of_same (fun _ => not_acknowledged_nil) (h.close link.wire)⟩
    have closed := fleet.links.get?_mapped (fun _ link => link.shutdown wires) device
    rwa [known] at closed

theorem runTasks_accounted {fleet : Fleet τ} {device : String} {link : Link τ}
    (known : fleet.links.get? device = some link) (sound : sane link.wire) (start : Nat)
    (free : Table String Nat) (tasks : List (String × Task)) :
    ∃ after, (fleet.runTasks wires start free tasks).2.links.get? device = some after ∧
      Accounted device (memory link.wire) (fleet.turns wires start free tasks)
        (memory after.wire) := by
  induction tasks generalizing fleet link free with
  | nil => exact ⟨link, known, rfl⟩
  | cons entry rest ih =>
    obtain ⟨user, task⟩ := entry
    obtain ⟨after, found, sound, leaves⟩ :=
      runTask_leaves h known sound user task ((free.get? user).getD start)
    let ended := (fleet.runTask wires user task ((free.get? user).getD start)).2
    obtain ⟨last, stays, accounted⟩ :=
      @ih { ended.2 with clock := max ended.2.clock ended.1 } after found sound
        (free.insert user ended.1)
    exact ⟨last, stays, memory after.wire, leaves, accounted⟩

/-- The registers of a device come, turn by turn, to what they are when all tasks have ended. -/
theorem concurrently_accounted {fleet : Fleet τ} {device : String} {link : Link τ}
    (known : fleet.links.get? device = some link) (sound : sane link.wire)
    (tasks : List (String × Task)) :
    ∃ after, (fleet.concurrently wires tasks).2.links.get? device = some after ∧
      Accounted device (memory link.wire) (fleet.concurrentTurns wires tasks)
        (memory after.wire) := by
  have unseen : fleet.withoutGlimpses.links.get? device = some { link with glimpse := none } := by
    have mapped := fleet.links.get?_mapped (fun _ link => { link with glimpse := none }) device
    rwa [known] at mapped
  exact runTasks_accounted h unseen sound fleet.clock Table.empty tasks

end Memory

/-- However the faults of a device change, tasks on it lose none of each other's work: in the end
its registers are what the acknowledged writes make of them, in the order of the turns. -/
theorem concurrently_registers (fleet : Fleet UnreliableWire) {device : String}
    {link : Link UnreliableWire} (known : fleet.links.get? device = some link)
    (applies : link.wire.AppliesWrites) (tasks : List (String × Task)) :
    let turns := fleet.concurrentTurns unreliableTransport tasks
    turns.map (fun turn => (turn.device, turn.task)) = tasks ∧
    ∃ after, (fleet.concurrently unreliableTransport tasks).2.links.get? device = some after ∧
      ∀ final, Accounted device link.wire.memory turns final ↔ final = after.wire.memory := by
  intro turns
  obtain ⟨after, found, accounted⟩ :=
    concurrently_accounted unreliableTransport_isMemory known applies tasks
  refine ⟨turns_tasks .., after, found, fun final => ⟨fun other => other.unique accounted, ?_⟩⟩
  rintro rfl
  exact accounted

/-- A device that resets a request, answers one too late and refuses a connection. -/
def flakyLink : Link UnreliableWire where
  settings := { name := "press", host := "10.0.0.7" }
  wire :=
    { upcoming := [{}, { failRequests := 1 }, {}, {}, {}, {}, { delayMs := 5000 },
        { refuseConnect := true }, {}] }

def flakyFleet : Fleet UnreliableWire where
  links := Table.empty.insert "press" flakyLink

def flakyTasks : List (String × Task) :=
  [("press", .perform (.writeBit 7 3 1 true)), ("press", .perform (.writeRegister 8 99)),
    ("press", .perform (.writeBit 7 0 1 false))]

theorem concurrently_flakyFleet_registers :
    ((flakyFleet.concurrently unreliableTransport flakyTasks).2.links.get? "press").map
        (fun link => (link.wire.memory 7, link.wire.memory 8)) = some (9, 99) ∧
      flakyFleet.links.get? "press" = some flakyLink ∧ flakyLink.wire.AppliesWrites ∧
      (flakyFleet.concurrentTurns unreliableTransport flakyTasks).map
        (fun turn => (turn.device, turn.task)) = flakyTasks ∧
      ∃ after, (flakyFleet.concurrently unreliableTransport flakyTasks).2.links.get? "press" =
          some after ∧
        ∀ final, Accounted "press" flakyLink.wire.memory
          (flakyFleet.concurrentTurns unreliableTransport flakyTasks) final ↔
            final = after.wire.memory := by
  have known : flakyFleet.links.get? "press" = some flakyLink := by
    simp [flakyFleet]
  have applies : flakyLink.wire.AppliesWrites := ⟨rfl, by decide⟩
  exact ⟨by decide +kernel, known, applies,
    concurrently_registers flakyFleet known applies flakyTasks⟩

end Fleet
end PlcMonitor
