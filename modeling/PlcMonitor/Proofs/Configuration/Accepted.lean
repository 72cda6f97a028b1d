import PlcMonitor.Configuration.Basic

/-! What a configuration has that is accepted: limits in range, devices with names of their own, and
for each device tags that can be read and rules that watch them. -/
namespace PlcMonitor

namespace ScanSettings

/-- Blocks hold a real and can be asked for in one request, and time passes between cycles. -/
structure Accepted (settings : ScanSettings) : Prop where
  large : minBlockSize ≤ settings.maxBlockSize
  small : settings.maxBlockSize ≤ maxRequestSize
  interval : settings.pollIntervalMs ≠ 0

theorem validate_eq_ok_iff {settings : ScanSettings} :
    settings.validate = .ok () ↔ settings.Accepted := by
  unfold validate
  by_cases size : settings.maxBlockSize < minBlockSize ∨ maxRequestSize < settings.maxBlockSize
  · rw [if_pos size]
    exact ⟨nofun, fun accepted => absurd size
      (not_or.mpr ⟨UInt16.not_lt.mpr accepted.large, UInt16.not_lt.mpr accepted.small⟩)⟩
  · rw [if_neg size]
    obtain ⟨large, small⟩ := not_or.mp size
    by_cases still : settings.pollIntervalMs = 0
    · rw [if_pos still]
      exact ⟨nofun, fun accepted => absurd still accepted.interval⟩
    · rw [if_neg still]
      exact ⟨fun _ => ⟨UInt16.not_lt.mp large, UInt16.not_lt.mp small, still⟩, fun _ => rfl⟩

end ScanSettings

namespace DeviceSettings

/-- A device that can be named and reached. Its rules have ids of their own, and each watches one of
its tags. -/
structure Accepted (device : DeviceSettings) : Prop where
  named : Text.allBlank device.name = false
  hosted : Text.allBlank device.host = false
  watched : ∃ tags, device.tags.flatten = .ok tags ∧
    ∀ rule ∈ device.rules, rule.tag ∈ tags.map (·.key)
  distinct : (device.rules.map (·.id)).Nodup

theorem validateRules_eq_ok_iff {keys seen : List String} {rules : List AlarmRule} :
    validateRules keys seen rules = .ok () ↔
      (∀ rule ∈ rules, rule.id ∉ seen) ∧ (rules.map (·.id)).Nodup ∧
        ∀ rule ∈ rules, rule.tag ∈ keys := by
  induction rules generalizing seen with
  | nil => simp [validateRules]
  | cons rule rest ih =>
    simp only [validateRules, List.forall_mem_cons, List.map_cons, List.nodup_cons]
    by_cases taken : rule.id ∈ seen
    · simp [taken]
    · by_cases known : rule.tag ∈ keys
      · rw [if_neg taken, if_neg (not_not_intro known), ih]
        simp only [List.mem_cons, not_or, List.mem_map, not_exists, not_and]
        grind
      · simp [taken, known]

theorem validate_eq_ok_iff {device : DeviceSettings} :
    device.validate = .ok () ↔ device.Accepted := by
  unfold validate
  cases named : Text.allBlank device.name with
  | true => exact ⟨nofun, fun accepted => absurd accepted.named (by simp [named])⟩
  | false =>
    cases hosted : Text.allBlank device.host with
    | true => exact ⟨nofun, fun accepted => absurd accepted.hosted (by simp [hosted])⟩
    | false =>
      cases flat : device.tags.flatten with
      | error fault =>
        refine ⟨nofun, fun accepted => ?_⟩
        obtain ⟨tags, read, -⟩ := accepted.watched
        rw [flat] at read
        cases read
      | ok tags =>
        change validateRules _ [] device.rules = _ ↔ _
        rw [validateRules_eq_ok_iff]
        constructor
        · rintro ⟨-, distinct, watched⟩
          exact ⟨named, hosted, ⟨tags, flat, watched⟩, distinct⟩
        · intro accepted
          obtain ⟨tags, read, watched⟩ := accepted.watched
          cases flat.symm.trans read
          exact ⟨fun _ _ => List.not_mem_nil, accepted.distinct, watched⟩

end DeviceSettings

namespace Configuration

structure Accepted (config : Configuration) : Prop where
  scan : config.scan.Accepted
  nonempty : config.devices ≠ []
  distinct : (config.devices.map (·.name)).Nodup
  devices : ∀ device ∈ config.devices, device.Accepted

theorem validateDevices_eq_ok_iff {seen : List String} {devices : List DeviceSettings} :
    validateDevices seen devices = .ok () ↔
      (∀ device ∈ devices, device.name ∉ seen) ∧ (devices.map (·.name)).Nodup ∧
        ∀ device ∈ devices, device.Accepted := by
  induction devices generalizing seen with
  | nil => simp [validateDevices]
  | cons device rest ih =>
    simp only [validateDevices, List.forall_mem_cons, List.map_cons, List.nodup_cons,
      ← DeviceSettings.validate_eq_ok_iff]
    by_cases taken : device.name ∈ seen
    · simp [taken]
    · cases valid : device.validate with
      | error reason => simp [taken]
      | ok done =>
        simp only [if_neg taken, ih, DeviceSettings.validate_eq_ok_iff, List.mem_cons, not_or,
          List.mem_map, not_exists, not_and]
        grind

theorem validate_eq_ok_iff {config : Configuration} :
    config.validate = .ok () ↔ config.Accepted := by
  unfold validate
  cases limits : config.scan.validate with
  | error reason =>
    refine ⟨nofun, fun accepted => ?_⟩
    rw [ScanSettings.validate_eq_ok_iff.mpr accepted.scan] at limits
    cases limits
  | ok done =>
    have scan := ScanSettings.validate_eq_ok_iff.mp limits
    dsimp only
    split
    · rename_i none
      exact ⟨nofun, fun accepted => absurd none accepted.nonempty⟩
    · rename_i some
      rw [validateDevices_eq_ok_iff]
      exact ⟨fun ⟨_, distinct, devices⟩ => ⟨scan, some, distinct, devices⟩,
        fun accepted => ⟨fun _ _ => List.not_mem_nil, accepted.distinct, accepted.devices⟩⟩

end Configuration
end PlcMonitor
