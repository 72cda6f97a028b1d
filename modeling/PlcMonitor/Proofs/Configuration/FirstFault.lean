import Mathlib.Data.List.Forall2
import PlcMonitor.Proofs.Configuration.Accepted

/-! Which fault a configuration is refused for. Its faults make a list, from the limits of scanning
to the rules of the last device, and the first of them counts. Whether there is any does not depend
on how the devices and their rules are ordered. -/
namespace PlcMonitor

section InTurn
variable {ε φ α : Type}

def refuseFirst : List ε → Except ε Unit
  | [] => .ok ()
  | fault :: _ => .error fault

theorem refuseFirst_append (faults more : List ε) :
    refuseFirst (faults ++ more) = refuseFirst faults >>= fun _ => refuseFirst more := by
  cases faults <;> rfl

theorem refuseFirst_map (f : ε → φ) (faults : List ε) :
    refuseFirst (faults.map f) = (refuseFirst faults).mapError f := by
  cases faults <;> rfl

/-- What is wrong with items that are taken in turn: that one has the name of an earlier one, and
then what is wrong with itself. -/
def flawsInTurn (name : α → String) (repeated : α → ε) (own : α → List ε) (items : List α) :
    List ε :=
  items.zipIdx.flatMap fun (item, i) =>
    (if name item ∈ (items.take i).map name then [repeated item] else []) ++ own item

/-- A loop over items that remembers the names it has seen stops at the first fault. -/
theorem loop_eq_refuseFirst {name : α → String} {repeated : α → ε} {own : α → List ε}
    {loop : List String → List α → Except ε Unit} (done : ∀ seen, loop seen [] = .ok ())
    (step : ∀ seen item rest, loop seen (item :: rest) =
      if name item ∈ seen then .error (repeated item)
      else refuseFirst (own item) >>= fun _ => loop (name item :: seen) rest)
    (items : List α) : loop [] items = refuseFirst (flawsInTurn name repeated own items) := by
  suffices ∀ (before rest : List α) (seen : List String),
      (∀ n, n ∈ seen ↔ n ∈ before.map name) →
      loop seen rest = refuseFirst ((rest.zipIdx before.length).flatMap fun (item, i) =>
        (if name item ∈ ((before ++ rest).take i).map name then [repeated item] else []) ++
          own item) from this [] items [] (by simp)
  intro before rest
  induction rest generalizing before with
  | nil =>
    intro seen _
    simp [done, refuseFirst]
  | cons item rest ih =>
    intro seen same
    rw [step, List.zipIdx_cons, List.flatMap_cons]
    dsimp only
    rw [List.take_left]
    by_cases taken : name item ∈ seen
    · rw [if_pos taken, if_pos ((same _).mp taken)]
      rfl
    · have later := ih (before ++ [item]) (name item :: seen) fun n => by simp [same, or_comm]
      rw [List.append_assoc, List.singleton_append, List.length_append] at later
      rw [if_neg taken, if_neg fun h => taken ((same _).mpr h), List.nil_append, refuseFirst_append,
        later]
      rfl

end InTurn

namespace ScanSettings

def flaws (settings : ScanSettings) : List Invalid :=
  (if settings.maxBlockSize < minBlockSize ∨ maxRequestSize < settings.maxBlockSize then
    [.blockSize settings.maxBlockSize] else []) ++
  (if settings.pollIntervalMs = 0 then [.zeroInterval] else [])

theorem validate_eq (settings : ScanSettings) :
    settings.validate = refuseFirst settings.flaws := by
  unfold validate flaws
  split <;> split <;> rfl

end ScanSettings

namespace DeviceSettings

/-- The keys of the tags. A tree that cannot be taken apart has none. -/
def keys (device : DeviceSettings) : List String :=
  match device.tags.flatten with
  | .ok tags => tags.map (·.key)
  | .error _ => []

def treeFlaws (device : DeviceSettings) : List Invalid :=
  match device.tags.flatten with
  | .ok _ => []
  | .error fault => [.tags fault]

def tagFlaws (keys : List String) (rule : AlarmRule) : List Invalid :=
  if rule.tag ∈ keys then [] else [.unknownTag rule.id rule.tag]

/-- What is wrong with a device: its name, its host, its tags, and its rules one by one. -/
def flaws (device : DeviceSettings) : List Invalid :=
  (if Text.allBlank device.name then [.blankName] else []) ++
  (if Text.allBlank device.host then [.blankHost] else []) ++
  device.treeFlaws ++
  flawsInTurn (·.id) (fun rule => .duplicateRule rule.id) (tagFlaws device.keys) device.rules

theorem validateRules_eq (keys : List String) (rules : List AlarmRule) :
    validateRules keys [] rules =
      refuseFirst (flawsInTurn (·.id) (fun rule => .duplicateRule rule.id) (tagFlaws keys)
        rules) := by
  apply loop_eq_refuseFirst fun _ => rfl
  intro seen rule rest
  rw [validateRules, tagFlaws]
  split
  · rfl
  · by_cases known : rule.tag ∈ keys
    · rw [if_neg (not_not_intro known), if_pos known]
      rfl
    · rw [if_pos known, if_neg known]
      rfl

theorem validate_eq (device : DeviceSettings) : device.validate = refuseFirst device.flaws := by
  unfold validate flaws treeFlaws keys
  split
  · rfl
  split
  · rfl
  cases device.tags.flatten with
  | error fault => rfl
  | ok tags => exact validateRules_eq (tags.map (·.key)) device.rules

/-- The same device with its rules in another order. -/
def Reordered (device other : DeviceSettings) : Prop :=
  ∃ rules, rules.Perm device.rules ∧ other = { device with rules }

theorem Reordered.name_eq {device other : DeviceSettings} (h : device.Reordered other) :
    other.name = device.name := by
  obtain ⟨rules, -, rfl⟩ := h
  rfl

theorem Reordered.accepted_iff {device other : DeviceSettings} (h : device.Reordered other) :
    other.Accepted ↔ device.Accepted := by
  obtain ⟨rules, perm, rfl⟩ := h
  have distinct := (perm.map (·.id)).nodup_iff
  have watched (keys : List String) : (∀ rule ∈ rules, rule.tag ∈ keys) ↔
      ∀ rule ∈ device.rules, rule.tag ∈ keys := by
    simp [perm.mem_iff]
  constructor
  · intro accepted
    obtain ⟨tags, flat, found⟩ := accepted.watched
    exact ⟨accepted.named, accepted.hosted, ⟨tags, flat, (watched _).mp found⟩,
      distinct.mp accepted.distinct⟩
  · intro accepted
    obtain ⟨tags, flat, found⟩ := accepted.watched
    exact ⟨accepted.named, accepted.hosted, ⟨tags, flat, (watched _).mpr found⟩,
      distinct.mpr accepted.distinct⟩

end DeviceSettings

namespace Configuration

/-- What is wrong with a configuration: its limits, that it has no devices, and its devices one by
one. -/
def flaws (config : Configuration) : List Invalid :=
  config.scan.flaws.map .scan ++
  (if config.devices.isEmpty then [.noDevices] else []) ++
  flawsInTurn (·.name) (fun device => .duplicateDevice device.name)
    (fun device => device.flaws.map (.device device.name)) config.devices

theorem validateDevices_eq (devices : List DeviceSettings) :
    validateDevices [] devices =
      refuseFirst (flawsInTurn (·.name) (fun device => .duplicateDevice device.name)
        (fun device => device.flaws.map (.device device.name)) devices) := by
  apply loop_eq_refuseFirst fun _ => rfl
  intro seen device rest
  rw [refuseFirst_map, ← device.validate_eq, validateDevices]
  split
  · rfl
  · cases device.validate <;> rfl

theorem validate_eq (config : Configuration) : config.validate = refuseFirst config.flaws := by
  unfold validate flaws
  rw [refuseFirst_append, refuseFirst_append, refuseFirst_map, ← config.scan.validate_eq,
    ← validateDevices_eq]
  cases config.scan.validate with
  | error reason => rfl
  | ok done => cases config.devices <;> rfl

example : ({ scan := { maxBlockSize := 126, pollIntervalMs := 0 }, devices := [] } :
    Configuration).flaws = [.scan (.blockSize 126), .scan .zeroInterval, .noDevices] := rfl

/-- The same configuration with its devices, and the rules of each, in another order. -/
def Reordered (config other : Configuration) : Prop :=
  other.scan = config.scan ∧ ∃ devices : List DeviceSettings, devices.Perm config.devices ∧
    List.Forall₂ DeviceSettings.Reordered devices other.devices

theorem map_name_of_reordered {devices others : List DeviceSettings}
    (h : List.Forall₂ DeviceSettings.Reordered devices others) :
    others.map (·.name) = devices.map (·.name) := by
  induction h with
  | nil => rfl
  | cons same _ ih => simp [same.name_eq, ih]

theorem forall_accepted_of_reordered {devices others : List DeviceSettings}
    (h : List.Forall₂ DeviceSettings.Reordered devices others) :
    (∀ device ∈ others, device.Accepted) ↔ ∀ device ∈ devices, device.Accepted := by
  induction h with
  | nil => rfl
  | cons same _ ih => rw [List.forall_mem_cons, List.forall_mem_cons, same.accepted_iff, ih]

theorem Reordered.accepted_iff {config other : Configuration} (h : config.Reordered other) :
    other.Accepted ↔ config.Accepted := by
  obtain ⟨scan, devices, perm, reordered⟩ := h
  have length : other.devices.length = config.devices.length := by
    rw [← reordered.length_eq, perm.length_eq]
  have nonempty : other.devices ≠ [] ↔ config.devices ≠ [] := by
    rw [← List.length_pos_iff, length, List.length_pos_iff]
  have distinct : (other.devices.map (·.name)).Nodup ↔ (config.devices.map (·.name)).Nodup := by
    rw [map_name_of_reordered reordered, (perm.map _).nodup_iff]
  have each : (∀ device ∈ other.devices, device.Accepted) ↔
      ∀ device ∈ config.devices, device.Accepted := by
    rw [forall_accepted_of_reordered reordered]
    simp [perm.mem_iff]
  constructor
  · intro accepted
    exact ⟨scan ▸ accepted.scan, nonempty.mp accepted.nonempty, distinct.mp accepted.distinct,
      each.mp accepted.devices⟩
  · intro accepted
    exact ⟨scan ▸ accepted.scan, nonempty.mpr accepted.nonempty, distinct.mpr accepted.distinct,
      each.mpr accepted.devices⟩

/-- A configuration is accepted just if its limits are in range, it has devices, their names are
distinct, and each can be named and reached, has tags, and has rules with distinct ids that each
watch a tag of its own. The order of the devices and of their rules does not matter for that. What
is not accepted is refused for the first of its faults, also where that fault stops the run. -/
theorem validate_exact (config : Configuration) :
    (config.validate = .ok () ↔ config.Accepted) ∧
    (∀ other, config.Reordered other → (other.validate = .ok () ↔ config.validate = .ok ())) ∧
    config.validate = refuseFirst config.flaws := by
  refine ⟨validate_eq_ok_iff, fun other reordered => ?_, config.validate_eq⟩
  rw [validate_eq_ok_iff, validate_eq_ok_iff, reordered.accepted_iff]

end Configuration
end PlcMonitor
