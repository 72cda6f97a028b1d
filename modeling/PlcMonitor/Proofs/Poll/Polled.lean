import PlcMonitor.Alarm.FaultyStore
import PlcMonitor.Proofs.Poll.Calls
import PlcMonitor.Proofs.Table
import PlcMonitor.Time.Zone
import PlcMonitor.Wire.Bank

/-! What one cycle comes to, whichever of its block reads fail: all blocks are read, what could be
read is published, and the rules that have a number to look at are recorded with the last one. -/
namespace PlcMonitor

namespace Cycle

def published (device : String) (readings : List (TagSpec × Reading)) : List (String × Reading) :=
  readings.map fun (tag, reading) => (SignalBus.key device tag.key, reading)

def numeric (readings : List (TagSpec × Reading)) : List (String × Float) :=
  readings.filterMap fun (tag, reading) => reading.value.asFloat.map fun x => (tag.key, x)

theorem signals_publishAll (device : String) (bus : SignalBus)
    (readings : List (TagSpec × Reading)) :
    (publishAll device bus readings).signals =
      bus.signals.insertAll (published device readings) := by
  induction readings generalizing bus with
  | nil => rfl
  | cons entry rest ih => exact ih (bus.publish device entry.1.key entry.2)

/-- A name on the bus has the last reading published under it, or else the one it had. -/
theorem get?_publishAll_eq_some_iff (device : String) (bus : SignalBus)
    (readings : List (TagSpec × Reading)) {name : String} {reading : Reading} :
    (publishAll device bus readings).get? name = some reading ↔
      Table.IsLast (published device readings) name reading ∨
        name ∉ (published device readings).map Prod.fst ∧ bus.get? name = some reading := by
  unfold SignalBus.get?
  rw [signals_publishAll, Table.get?_insertAll_eq_some_iff]

theorem get?_numbers_eq_some_iff {readings : List (TagSpec × Reading)} {key : String} {x : Float} :
    (numbers readings).get? key = some x ↔ Table.IsLast (numeric readings) key x := by
  refine Table.get?_insertAll_eq_some_iff.trans (or_iff_left ?_)
  rintro ⟨-, none⟩
  cases none

theorem isSome_get?_numbers {readings : List (TagSpec × Reading)} {key : String} :
    ((numbers readings).get? key).isSome = true ↔ key ∈ (numeric readings).map Prod.fst :=
  Table.isSome_get?_insertAll.trans (or_iff_left nofun)

/-- `watched` are the enabled rules whose tag gave a number, in their order, each with the last
number that it gave. -/
structure Watches (rules : List AlarmRule) (readings : List (TagSpec × Reading))
    (watched : List (AlarmRule × Float)) : Prop where
  rules : watched.map Prod.fst =
    rules.filter fun rule => rule.enabled && rule.tag ∈ (numeric readings).map Prod.fst
  numbers : ∀ entry ∈ watched, Table.IsLast (numeric readings) entry.1.tag entry.2

def watched (rules : List AlarmRule) (numbers : Table String Float) : List (AlarmRule × Float) :=
  (rules.filter (·.enabled)).filterMap fun rule =>
    (numbers.get? rule.tag).map fun x => (rule, x)

theorem observations_eq (device : String) (clocks : Clocks) (now : Instant)
    (rules : List AlarmRule) (numbers : Table String Float) :
    observations device clocks now rules numbers =
      (watched rules numbers).map fun (rule, x) => observation device clocks now rule x := by
  simp only [observations, watched, List.map_filterMap, Option.map_map]
  rfl

theorem map_fst_filterMap {α β : Type} (f : α → Option β) (items : List α) :
    (items.filterMap fun a => (f a).map fun b => (a, b)).map Prod.fst =
      items.filter fun a => (f a).isSome := by
  induction items with
  | nil => rfl
  | cons a rest ih => cases found : f a <;> simp [found, ih]

theorem watches_watched (rules : List AlarmRule) (readings : List (TagSpec × Reading)) :
    Watches rules readings (watched rules (numbers readings)) where
  rules := by
    rw [watched, map_fst_filterMap, List.filter_filter]
    refine List.filter_congr fun rule _ => ?_
    rw [Bool.and_comm,
      Bool.eq_iff_iff.mpr (isSome_get?_numbers.trans decide_eq_true_iff.symm)]
  numbers := by
    rintro ⟨rule, x⟩ hentry
    obtain ⟨_, -, h⟩ := List.mem_filterMap.mp hentry
    obtain ⟨_, found, h⟩ := Option.map_eq_some_iff.mp h
    obtain ⟨rfl, rfl⟩ := Prod.mk.inj h
    exact get?_numbers_eq_some_iff.mp found

theorem Watches.eq_nil {rules : List AlarmRule} {watched : List (AlarmRule × Float)}
    (watches : Watches rules [] watched) : watched = [] := by
  refine List.map_eq_nil_iff.mp (watches.rules.trans (List.filter_eq_nil_iff.mpr fun rule _ => ?_))
  simp [numeric]

theorem countP_add_countP_not {α : Type} (p : α → Bool) (items : List α) :
    items.countP p + items.countP (!p ·) = items.length := by
  rw [List.length_eq_countP_add_countP p]
  exact congrArg _ (List.countP_congr fun _ _ => by simp)

theorem decodeAll_of_failed (plan : ScanPlan) {reads : List BlockRead}
    (failed : ∀ read ∈ reads, read.outcome.isOk = false) : decodeAll plan reads = [] := by
  refine List.flatMap_eq_nil_iff.mpr fun read hread => ?_
  have := failed read hread
  cases outcome : read.outcome with
  | error fault => rfl
  | ok words => simp [outcome, Except.isOk, Except.toBool] at this

end Cycle

open PlcMonitor.Cycle

/-- What one cycle of a poller does: which blocks it read and what they decode to, which
observations it recorded and what came of each, and the report, the poller and the plant that it
leaves. -/
structure Polled {τ σ : Type} (wires : Transport τ) (alarms : AlarmStore σ) (clocks : Clocks)
    (now : Instant) (poller : Poller) (plant : Plant τ σ) (reads : List BlockRead)
    (readings : List (TagSpec × Reading)) (watched : List (AlarmRule × Float))
    (recorded : List (Observation × Except LifecycleFault Transition))
    (report : CycleReport) (next : Poller) (left : Plant τ σ) : Prop where
  /-- Every block is read once, in order, whatever comes of the others. -/
  blocks : reads.map (·.block) = poller.plan.blocks
  read : Calls (fun block fleet =>
      fleet.perform wires poller.device (.readBlock block.first block.count))
    (reads.map BlockRead.entry) plant.fleet left.fleet
  decoded : readings = reads.flatMap fun read =>
    match read.outcome with
    | .ok words => poller.plan.decode read.block words
    | .error _ => []
  /-- On the bus are the readings of the blocks that could be read, and else what was there. -/
  bus : ∀ name reading, left.bus.get? name = some reading ↔
    Table.IsLast (published poller.device readings) name reading ∨
      name ∉ (published poller.device readings).map Prod.fst ∧
        plant.bus.get? name = some reading
  watches : Watches poller.rules readings watched
  observed : recorded.map Prod.fst =
    watched.map fun (rule, x) => observation poller.device clocks now rule x
  /-- Each under the key of its rule, with the number, and in the state that the rule gives it. -/
  seen : recorded.map (fun (seen, _) => (seen.key, seen.value, seen.state)) =
    watched.map fun (rule, x) =>
      (s!"{poller.device}:{rule.id}", some x, (rule.evaluate clocks x now).state)
  /-- What the rules see is recorded, one after another, whatever comes of the others. -/
  record : Calls (fun seen (store, announced) =>
      let (outcome, store, events) := (Lifecycle.setState plant.retries seen).run alarms store
      (outcome, store, announced ++ events))
    recorded (plant.store, plant.announced) (left.store, left.announced)
  retries : left.retries = plant.retries
  blocksOk : report.blocksOk = reads.countP (·.outcome.isOk)
  blocksTotal : report.blocksOk + report.blocksFailed = poller.plan.blocks.length
  readingsTotal : report.readings = readings.length
  evaluations : report.evaluations = recorded.countP (·.2.isOk)
  evaluationsTotal : ∃ failed, next.alarmErrors = poller.alarmErrors + failed ∧
    report.evaluations + failed = watched.length
  /-- Without data no alarm changes. -/
  still : (∀ read ∈ reads, read.outcome.isOk = false) →
    left.store = plant.store ∧ left.announced = plant.announced

/-- A cycle reads every block once and in order, publishes what was decoded and nothing else, and
then records what the rules with a number see, once each and in order, whichever of the reads and
of the records fail. -/
theorem Poller.poll_polled {τ σ : Type} (wires : Transport τ) (alarms : AlarmStore σ)
    (clocks : Clocks) (now : Instant) (poller : Poller) (plant : Plant τ σ) :
    ∃ reads readings watched recorded,
      Polled wires alarms clocks now poller plant reads readings watched recorded
        (poller.poll wires alarms clocks now plant).1
        (poller.poll wires alarms clocks now plant).2.1
        (poller.poll wires alarms clocks now plant).2.2 := by
  obtain ⟨reads, fleet, reading, read⟩ :=
    readBlocks_eq plant wires poller.device poller.plan.blocks
  have blocks := map_block_readBlocks (Plant.readBlock wires poller.device) poller.plan.blocks
    plant
  unfold Poller.poll
  rw [reading] at blocks ⊢
  dsimp only at blocks ⊢
  generalize decoded : decodeAll poller.plan reads = readings
  have watches := watches_watched poller.rules readings
  rw [observations_eq]
  generalize Cycle.watched poller.rules (numbers readings) = watched at watches ⊢
  generalize looked : watched.map _ = seen
  generalize shown : publishAll poller.device plant.bus readings = bus
  obtain ⟨outcomes, store, announced, recording, each, record⟩ :=
    recordAll_eq { plant with fleet, bus } alarms seen
  rw [recording]
  dsimp only at record ⊢
  have observed : (seen.zip outcomes).map Prod.fst = watched.map fun (rule, x) =>
      observation poller.device clocks now rule x :=
    (List.map_fst_zip (by omega)).trans looked.symm
  have outcomes_eq : (seen.zip outcomes).map Prod.snd = outcomes := List.map_snd_zip (by omega)
  refine ⟨reads, readings, watched, seen.zip outcomes, {
    blocks, read, watches, observed, record
    decoded := decoded.symm
    bus := ?_
    seen := ?_
    retries := rfl
    blocksOk := rfl
    blocksTotal := ?_
    readingsTotal := rfl
    evaluations := ?_
    evaluationsTotal := ⟨outcomes.countP (!·.isOk), rfl, ?_⟩
    still := ?_ }⟩
  · intro name reading
    rw [← shown]
    exact get?_publishAll_eq_some_iff _ _ _
  · have fields := congrArg (List.map fun seen => (seen.key, seen.value, seen.state)) observed
    rw [List.map_map, List.map_map] at fields
    exact fields
  · rw [← blocks, List.length_map]
    exact countP_add_countP_not _ reads
  · have counted := congrArg (List.countP (·.isOk)) outcomes_eq
    rw [List.countP_map] at counted
    exact counted.symm
  · rw [← List.length_map, looked, ← each]
    exact countP_add_countP_not _ outcomes
  · intro failed
    obtain rfl : readings = [] := decoded ▸ decodeAll_of_failed poller.plan failed
    obtain rfl : seen = [] := by rw [← looked, watches.eq_nil, List.map_nil]
    cases record
    exact ⟨rfl, rfl⟩

def haltingPoller : Poller where
  device := "press"
  plan := ⟨[{ path := ["level"], address := 40001, type := .integer, base := 1, span := ⟨1, 1⟩ },
      { path := ["flow"], address := 40101, type := .integer, base := 101, span := ⟨101, 1⟩ },
      { path := ["speed"], address := 40102, type := .integer, base := 102, span := ⟨102, 1⟩ }],
    [⟨1, 1⟩, ⟨101, 2⟩]⟩
  rules := [
    { id := "full", name := "Full", tag := "level", limits := { alarm := some 0 } },
    { id := "dry", name := "Dry", tag := "flow", comparison := .below,
      limits := { alarm := some 10 } },
    { id := "fast", name := "Too fast", tag := "speed", limits := { alarm := some 100 } }]
  intervalMs := 1000

/-- The first request fails. -/
def haltingBank : RegisterBank :=
  RegisterBank.load { faults := { failRequests := 1 } } 101 [5, 150]

/-- The first write meets a conflict, after which there is no other attempt. -/
def haltingPlant : Plant BankWire FaultyStore where
  fleet := {
    links := Table.empty.insert "press"
      { settings := { name := "press", host := "10.0.0.7", retries := 0 }
        wire := { bank := haltingBank } } }
  store := { conflicts := 1 }
  retries := 0

/-- The level is not read and its rule sees nothing; the rule on the flow meets the conflict, and
the one on the speed is recorded all the same. -/
theorem haltingPoller_polled :
    let cycle := haltingPoller.poll bankTransport faultyStore Zone.clocks ⟨0, 0⟩ haltingPlant
    cycle.1 =
        { blocksOk := 1, blocksFailed := 1, readings := 2, evaluations := 1, transitions := 1 } ∧
      cycle.2.1.alarmErrors = 1 ∧ cycle.2.2.announced.map (·.key) = ["press:fast"] ∧
      ∃ reads readings watched recorded,
        Polled bankTransport faultyStore Zone.clocks ⟨0, 0⟩ haltingPoller haltingPlant reads
            readings watched recorded cycle.1 cycle.2.1 cycle.2.2 ∧
          reads.countP (·.outcome.isOk) = 1 ∧ watched.length = 2 ∧
          recorded.countP (·.2.isOk) = 1 := by
  intro cycle
  have report : cycle.1 =
      { blocksOk := 1, blocksFailed := 1, readings := 2, evaluations := 1, transitions := 1 } := by
    decide +kernel
  have errors : cycle.2.1.alarmErrors = 1 := by decide +kernel
  obtain ⟨reads, readings, watched, recorded, polled⟩ := haltingPoller.poll_polled bankTransport
    faultyStore Zone.clocks ⟨0, 0⟩ haltingPlant
  refine ⟨report, errors, by decide +kernel, reads, readings, watched, recorded, polled, ?_, ?_, ?_⟩
  · rw [← polled.blocksOk]
    exact congrArg CycleReport.blocksOk report
  · obtain ⟨failed, counted, total⟩ := polled.evaluationsTotal
    have one : 1 = 0 + failed := errors.symm.trans counted
    rw [← total, ← one.trans (Nat.zero_add failed)]
    exact congrArg (·.evaluations + 1) report
  · rw [← polled.evaluations]
    exact congrArg CycleReport.evaluations report

end PlcMonitor
