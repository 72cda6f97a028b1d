import PlcMonitor.Configuration.Device
import PlcMonitor.Proofs.Scan.Cover
import PlcMonitor.Proofs.Tag.Guarded

/-! Plans and the validation of devices in machine words. What stops them is what stops the
flattening of the tree, and nothing else. -/
namespace PlcMonitor
namespace Guarded

def footprint (tag : TagSpec) : Except Crash Window :=
  return ⟨tag.span.first.toNat, (← last tag.span).toNat⟩

def size (window : Window) : Except Crash Nat := do
  total (← difference window.last window.first) 1

def toSpan (window : Window) : Except Crash Span := do
  return ⟨window.first.toUInt16, (← size window).toUInt16⟩

def reach (window : Window) (maxGap : Nat) : Except Crash Nat := do
  total (← total window.last 1) maxGap

def sweep (maxSize maxGap : Nat) : Window → List Window → Except Crash (List Span)
  | current, [] => return [← toSpan current]
  | current, next :: rest => do
    let merged : Window := ⟨current.first, max current.last next.last⟩
    let size ← size merged
    if next.first ≤ (← reach current maxGap) ∧ size ≤ maxSize then
      sweep maxSize maxGap merged rest
    else
      return (← toSpan current) :: (← sweep maxSize maxGap next rest)

def blocks (maxSize maxGap : Nat) (windows : List Window) : Except Crash (List Span) :=
  match Window.sort windows with
  | [] => return []
  | first :: rest => sweep maxSize maxGap first rest

def coveringBlocks (tags : List TagSpec) (maxSize maxGap : UInt16) :
    ExceptT BlockSizeFault (Except Crash) (List Span) :=
  if maxSize < minBlockSize then throw ⟨maxSize⟩
  else (tags.mapM footprint >>= blocks maxSize.toNat maxGap.toNat : Except Crash (List Span))

def build (tree : TagTree) (settings : ScanSettings) :
    ExceptT PlanFault (Except Crash) ScanPlan := do
  let tags ← (flatten tree).adapt .tag
  return ⟨tags, ← (coveringBlocks tags settings.maxBlockSize settings.maxGap).adapt .blockSize⟩

def validate (device : DeviceSettings) : ExceptT DeviceSettings.Invalid (Except Crash) Unit :=
  if Text.allBlank device.name then throw .blankName
  else if Text.allBlank device.host then throw .blankHost
  else do
    let tags ← (flatten device.tags).adapt .tags
    DeviceSettings.validateRules (tags.map (·.key)) [] device.rules

section Blocks

/-- A window of registers that there are. -/
structure Real (window : Window) : Prop where
  ordered : window.first ≤ window.last
  inside : window.last < registerCount

theorem footprint_eq {tag : TagSpec} (built : tag.Built) :
    footprint tag = .ok (.ofSpan tag.span) ∧ Real (.ofSpan tag.span) := by
  obtain ⟨placed, -⟩ := built.placed
  obtain ⟨register, found, same⟩ := last_eq placed.pos
  have := placed.pos
  have := placed.end_le
  refine ⟨?_, by simp only [Window.ofSpan, Span.last]; omega,
    by simp only [Window.ofSpan, Span.last]; omega⟩
  rw [footprint, found, Window.ofSpan, ← same]
  rfl

section Real
variable {window : Window} (real : Real window)
include real

theorem size_eq : size window = .ok (window.last - window.first + 1) := by
  have := real.inside
  have less : registerCount < UInt32.size := by decide
  rw [size, difference_eq real.ordered]
  exact total_eq (by omega)

theorem toSpan_eq : toSpan window = .ok window.toSpan := by
  rw [toSpan, size_eq real]
  rfl

theorem reach_eq {maxGap : Nat} (narrow : maxGap < UInt16.size) :
    reach window maxGap = .ok (window.last + 1 + maxGap) := by
  have := real.inside
  have less : registerCount + UInt16.size < UInt32.size := by decide
  rw [reach, total_eq (by omega)]
  exact total_eq (by omega)

theorem Real.merged {next : Window} (other : Real next) :
    Real ⟨window.first, max window.last next.last⟩ :=
  ⟨real.ordered.trans (Nat.le_max_left _ _), Nat.max_lt.mpr ⟨real.inside, other.inside⟩⟩

end Real

theorem sweep_eq {maxSize maxGap : Nat} (narrow : maxGap < UInt16.size) {windows : List Window} :
    ∀ {current : Window}, Real current → (∀ window ∈ windows, Real window) →
      sweep maxSize maxGap current windows =
        .ok ((Window.sweep maxSize maxGap current windows).map Window.toSpan) := by
  induction windows with
  | nil =>
    intro current real _
    rw [sweep, toSpan_eq real]
    rfl
  | cons next rest ih =>
    intro current real each
    obtain ⟨own, each⟩ := List.forall_mem_cons.mp each
    rw [sweep, size_eq (real.merged own), reach_eq real narrow, toSpan_eq real, Window.sweep]
    change (if _ then sweep maxSize maxGap _ rest else sweep maxSize maxGap next rest >>= _) = _
    rw [ih (real.merged own) each, ih own each]
    by_cases joins : Window.joins maxSize maxGap current next = true
    · rw [if_pos joins, if_pos (by simpa [Window.joins] using joins)]
    · rw [if_neg joins, if_neg (by simpa [Window.joins] using joins)]
      rfl

theorem blocks_eq (maxSize : Nat) {maxGap : Nat} (narrow : maxGap < UInt16.size)
    {windows : List Window} (each : ∀ window ∈ windows, Real window) :
    blocks maxSize maxGap windows = .ok (blocksOfWindows maxSize maxGap windows) := by
  have each : ∀ window ∈ Window.sort windows, Real window :=
    fun window h => each window (Window.mem_sort.mp h)
  unfold blocks blocksOfWindows
  cases sorted : Window.sort windows with
  | nil => rfl
  | cons first rest =>
    rw [sorted] at each
    obtain ⟨own, each⟩ := List.forall_mem_cons.mp each
    exact sweep_eq narrow own each

theorem coveringBlocks_eq {tags : List TagSpec} (built : ∀ tag ∈ tags, tag.Built)
    (maxSize maxGap : UInt16) : coveringBlocks tags maxSize maxGap =
      settled (fun _ => false) (PlcMonitor.coveringBlocks tags maxSize maxGap) := by
  unfold coveringBlocks PlcMonitor.coveringBlocks
  rw [mapM_eq_ok fun tag htag => (footprint_eq (built tag htag)).1]
  have each : ∀ window ∈ tags.map fun tag => Window.ofSpan tag.span, Real window :=
    List.forall_mem_map.mpr fun tag htag => (footprint_eq (built tag htag)).2
  have swept := blocks_eq maxSize.toNat maxGap.toNat_lt each
  split
  · rfl
  · change liftM (blocks maxSize.toNat maxGap.toNat (tags.map fun tag => .ofSpan tag.span)) = _
    rw [swept]
    rfl

end Blocks

theorem build_eq (tree : TagTree) (settings : ScanSettings) :
    build tree settings = settled PlanFault.isFatal (ScanPlan.build tree settings) := by
  unfold build ScanPlan.build ScanPlan.ofTags
  rw [flatten_eq, settled_adapt TagFault.isFatal PlanFault.isFatal PlanFault.tag fun _ => rfl]
  apply settled_bind
  intro tags flat
  rw [coveringBlocks_eq (TagTree.flatten_built (mapError_eq_ok.mp flat)),
    settled_adapt (fun _ => false) PlanFault.isFatal PlanFault.blockSize fun _ => rfl]
  cases PlcMonitor.coveringBlocks tags settings.maxBlockSize settings.maxGap <;> rfl

theorem validateRules_eq (keys seen : List String) (rules : List AlarmRule) :
    liftM (DeviceSettings.validateRules keys seen rules) =
      settled DeviceSettings.Invalid.isFatal (DeviceSettings.validateRules keys seen rules) := by
  induction rules generalizing seen with
  | nil => rfl
  | cons rule rest ih =>
    rw [DeviceSettings.validateRules]
    split
    · rfl
    split
    · rfl
    · exact ih _

theorem validate_eq (device : DeviceSettings) :
    validate device = settled DeviceSettings.Invalid.isFatal device.validate := by
  unfold validate DeviceSettings.validate
  split
  · rfl
  split
  · rfl
  rw [flatten_eq, settled_adapt TagFault.isFatal DeviceSettings.Invalid.isFatal
    DeviceSettings.Invalid.tags fun _ => rfl]
  refine (settled_bind fun tags _ => validateRules_eq (tags.map (·.key)) [] device.rules).trans ?_
  cases device.tags.flatten <;> rfl

end Guarded

namespace TagTree

theorem build_isFatal_iff {tree : TagTree} {settings : ScanSettings} :
    (∃ fault, ScanPlan.build tree settings = .error fault ∧ fault.isFatal = true) ↔
      ∃ fault, tree.flatten = .error fault ∧ fault.isFatal = true := by
  unfold ScanPlan.build
  cases tree.flatten with
  | error fault =>
    constructor
    · rintro ⟨_, ⟨⟩, stops⟩
      exact ⟨fault, rfl, stops⟩
    · rintro ⟨_, ⟨⟩, stops⟩
      exact ⟨.tag fault, rfl, stops⟩
  | ok tags =>
    refine iff_of_false ?_ nofun
    rintro ⟨_, failed, stops⟩
    obtain ⟨size, -, rfl⟩ := mapError_eq_error.mp failed
    cases stops

theorem not_isFatal_validateRules {keys seen : List String} {rules : List AlarmRule} :
    ¬∃ fault, DeviceSettings.validateRules keys seen rules = .error fault ∧
      fault.isFatal = true := by
  rw [← Guarded.exists_crash_iff, ← Guarded.validateRules_eq]
  exact nofun

theorem validate_isFatal_iff {device : DeviceSettings} :
    (∃ fault, device.validate = .error fault ∧ fault.isFatal = true) ↔
      (Text.allBlank device.name = false ∧ Text.allBlank device.host = false) ∧
        ∃ fault, device.tags.flatten = .error fault ∧ fault.isFatal = true := by
  -- a blank is found before the tree is looked at
  have blank {reason : DeviceSettings.Invalid} (mild : reason.isFatal = false) :
      ¬∃ fault, (.error reason : Except _ Unit) = .error fault ∧ fault.isFatal = true := by
    rintro ⟨_, ⟨⟩, stops⟩
    cases mild.symm.trans stops
  unfold DeviceSettings.validate
  cases Text.allBlank device.name with
  | true => exact iff_of_false (blank rfl) (by simp)
  | false =>
    cases Text.allBlank device.host with
    | true => exact iff_of_false (blank rfl) (by simp)
    | false =>
      rw [and_iff_right ⟨rfl, rfl⟩]
      cases device.tags.flatten with
      | error fault =>
        constructor
        · rintro ⟨_, ⟨⟩, stops⟩
          exact ⟨fault, rfl, stops⟩
        · rintro ⟨_, ⟨⟩, stops⟩
          exact ⟨.tags fault, rfl, stops⟩
      | ok tags => exact iff_of_false not_isFatal_validateRules nofun

/-- In machine words flattening comes to what it comes to in numbers, unless the first tag that
cannot be built fails on a bit key with a character across its third byte, and stops just then. The
same holds of validating a device with a name and a host, and of planning with any limits. -/
theorem crashes_iff_stopsAt (tree : TagTree) :
    let stops := ∃ path raw, tree.StopsAt path raw
    ((∃ crash, Guarded.flatten tree = .error crash) ↔ stops) ∧
    (∀ outcome, Guarded.flatten tree = .ok outcome → outcome = tree.flatten) ∧
    (∀ device : DeviceSettings, device.tags = tree →
      ((∃ crash, Guarded.validate device = .error crash) ↔
        (Text.allBlank device.name = false ∧ Text.allBlank device.host = false) ∧ stops) ∧
      ∀ outcome, Guarded.validate device = .ok outcome → outcome = device.validate) ∧
    ∀ settings,
      ((∃ crash, Guarded.build tree settings = .error crash) ↔ stops) ∧
      ∀ outcome, Guarded.build tree settings = .ok outcome →
        outcome = ScanPlan.build tree settings := by
  intro stops
  refine ⟨?_, fun outcome h => ?_, ?_, fun settings => ⟨?_, fun outcome h => ?_⟩⟩
  · rw [Guarded.flatten_eq, Guarded.exists_crash_iff, flatten_isFatal_iff]
  · rw [Guarded.flatten_eq] at h
    exact Guarded.eq_of_settled h
  · rintro device rfl
    refine ⟨?_, fun outcome h => ?_⟩
    · rw [Guarded.validate_eq, Guarded.exists_crash_iff, validate_isFatal_iff, flatten_isFatal_iff]
    · rw [Guarded.validate_eq] at h
      exact Guarded.eq_of_settled h
  · rw [Guarded.build_eq, Guarded.exists_crash_iff, build_isFatal_iff, flatten_isFatal_iff]
  · rw [Guarded.build_eq] at h
    exact Guarded.eq_of_settled h

/-- A tag with one bit key of five bytes, the last three of them one character. -/
def euroTree : TagTree :=
  .group [("a", .tag { address := 40001, type := .digital, bits := some (Table.ofList
    [("ab€", "X")]) })]

theorem euroTree_crashes :
    euroTree.flatten = .error (.uncutBitKey "a" "ab€") ∧
      Guarded.flatten euroTree = .error .outOfRange ∧
      ∀ settings, Guarded.build euroTree settings = .error .outOfRange :=
  ⟨rfl, rfl, fun _ => rfl⟩

end TagTree
end PlcMonitor
