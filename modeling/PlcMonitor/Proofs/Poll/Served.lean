import PlcMonitor.Proofs.Configuration.Accepted
import PlcMonitor.Proofs.Device.Refused
import PlcMonitor.Proofs.Poll.Calls
import PlcMonitor.Proofs.Scan.Shape

/-! What is accepted can be polled: the devices make a fleet, each has a plan whose blocks may be
asked for, and no poller is ever refused for its device's name or for a block's arguments. -/
namespace PlcMonitor

namespace Span.Shaped

/-- A block of no more registers than a device is asked for at once may be asked for. -/
theorem asked {tags : List TagSpec} {maxSize maxGap : UInt16} {block : Span}
    (shaped : block.Shaped tags maxSize maxGap) (small : maxSize ≤ maxReadCount) :
    (Operation.readBlock block.first block.count).check = .ok () := by
  apply Operation.check_readBlock_eq_ok_iff.mpr
  have nonempty : 1 ≤ block.count.toNat := UInt16.le_iff_toNat_le.mp shaped.nonempty
  have last := shaped.last_lt
  unfold Span.last at last
  refine ⟨⟨?_, UInt16.le_trans shaped.size small⟩, by omega⟩
  rintro none
  simp [none] at nonempty

end Span.Shaped

namespace ScanPlan

theorem exists_find?_iff (plan : ScanPlan) (key : String) :
    (∃ tag, plan.find? key = some tag) ↔ key ∈ plan.tags.map (·.key) := by
  rw [← Option.isSome_iff_exists, find?, List.find?_isSome]
  simp

/-- A plan can be carried out, and every rule finds its tag in it. -/
structure Serves (plan : ScanPlan) (rules : List AlarmRule) : Prop where
  asked : ∀ block ∈ plan.blocks, (Operation.readBlock block.first block.count).check = .ok ()
  found : ∀ rule ∈ rules, ∃ tag, plan.find? rule.tag = some tag

end ScanPlan

theorem DeviceSettings.Accepted.build_serves {device : DeviceSettings} (accepted : device.Accepted)
    {scan : ScanSettings} (limits : scan.Accepted) :
    ∃ plan, ScanPlan.build device.tags scan = .ok plan ∧ plan.Serves device.rules := by
  obtain ⟨tags, flat, watched⟩ := accepted.watched
  have built := TagTree.flatten_built flat
  refine ⟨_, ScanPlan.build_eq flat (coveringBlocks_eq tags scan.maxGap limits.large), ?_, ?_⟩
  · refine List.forall_mem_map.mpr fun run hrun => ?_
    have shaped := coveringRuns_shaped built scan.maxGap limits.large run hrun
    exact shaped.asked (UInt16.le_trans limits.small (by decide))
  · intro rule hrule
    exact (ScanPlan.exists_find?_iff _ rule.tag).mpr (watched rule hrule)

section Reading
variable {τ σ : Type} (wires : Transport τ) {device : String} {plan : ScanPlan}
  {rules : List AlarmRule} (serves : plan.Serves rules) {plant : Plant τ σ}
  (known : plant.fleet.Knows device)
include serves known

theorem Cycle.readBlocks_answered :
    ∀ read ∈ (readBlocks (Plant.readBlock wires device) plan.blocks plant).1,
      Answered read.block.count read.outcome := by
  have made := readBlocks_calls (Plant.readBlock wires device) plan.blocks plant
  have blocks := map_block_readBlocks (Plant.readBlock wires device) plan.blocks plant
  have kept := made.keeps (fun plant => plant.fleet.Knows device)
    (fun block outcome => Answered block.count outcome) known ?_
  · exact List.forall_mem_map.mp kept.1
  intro block hblock plant known
  rw [List.map_map] at hblock
  have checked := serves.asked block (blocks ▸ hblock)
  exact ⟨Fleet.readBlock_answered wires known checked, known.perform wires device _⟩

end Reading

theorem Answered.ne_refused {count : UInt16} {outcome : Except DeviceFault (List UInt16)}
    (answered : Answered count outcome) :
    (∀ name, outcome ≠ .error (.unknown name)) ∧ ∀ cause, outcome ≠ .error (.argument cause) := by
  constructor <;> rintro _ rfl
  all_goals
    obtain ⟨_, _, fault | fault⟩ := answered
    all_goals cases fault

/-- A configuration that is accepted never fails later. Its devices make a fleet. For each of them
there is a poller, whose plan may be carried out and has the tags of its rules, and which, whatever
has been done with the fleet, is not told that the device is unknown or that a block cannot be
asked for. -/
theorem Configuration.served_of_validate {config : Configuration} (valid : config.validate = .ok ())
    {τ : Type} (wires : Transport τ) (wire : DeviceSettings → τ) :
    ∃ fleet, Fleet.ofDevices wire config.devices = .ok fleet ∧
      ∀ device ∈ config.devices, ∃ plan, ScanPlan.build device.tags config.scan = .ok plan ∧
        plan.Serves device.rules ∧
        ∀ {σ : Type} (uses : List (Fleet.Use τ)) (plant : Plant τ σ),
          ∀ read ∈ (Cycle.readBlocks (Plant.readBlock wires device.name) plan.blocks
              { plant with fleet := fleet.useAll wires uses }).1,
            (∀ name, read.outcome ≠ .error (.unknown name)) ∧
              ∀ cause, read.outcome ≠ .error (.argument cause) := by
  have accepted := validate_eq_ok_iff.mp valid
  obtain ⟨fleet, made, known⟩ := Fleet.ofDevices_knows wire accepted.distinct
  refine ⟨fleet, made, fun device hdevice => ?_⟩
  obtain ⟨plan, built, serves⟩ := (accepted.devices device hdevice).build_serves accepted.scan
  refine ⟨plan, built, serves, fun uses plant read hread => ?_⟩
  have known := (known device hdevice).useAll wires uses
  exact (Cycle.readBlocks_answered wires serves known read hread).ne_refused

def pumpAndTank : Configuration where
  scan := { maxBlockSize := 125 }
  devices := [
    { name := "pump"
      host := "10.0.0.1"
      tags := .group [("running", .tag { address := 40001, type := .digital }),
        ("motor", .group [("speed", .tag { address := 105535, type := .integer })])]
      rules := [{ id := "fast", name := "Too fast", tag := "motor/speed" }] },
    { name := "tank"
      host := "10.0.0.2"
      tags := .group [("level", .tag { address := 40001, type := .real })]
      rules := [{ id := "full", name := "Full", tag := "level" }] }]

theorem pumpAndTank_served :
    pumpAndTank.validate = .ok () ∧
    ∃ fleet, Fleet.ofDevices (fun _ => ({} : BankWire)) pumpAndTank.devices = .ok fleet ∧
      ∀ device ∈ pumpAndTank.devices, ∃ plan,
        ScanPlan.build device.tags pumpAndTank.scan = .ok plan ∧ plan.Serves device.rules ∧
        ∀ {σ : Type} (uses : List (Fleet.Use BankWire)) (plant : Plant BankWire σ),
          ∀ read ∈ (Cycle.readBlocks (Plant.readBlock bankTransport device.name) plan.blocks
              { plant with fleet := fleet.useAll bankTransport uses }).1,
            (∀ name, read.outcome ≠ .error (.unknown name)) ∧
              ∀ cause, read.outcome ≠ .error (.argument cause) :=
  ⟨rfl, Configuration.served_of_validate rfl bankTransport fun _ => {}⟩

end PlcMonitor
