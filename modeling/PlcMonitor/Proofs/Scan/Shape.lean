import PlcMonitor.Proofs.Scan.Plan

/-! The shape of the blocks of a list of tags: each begins and ends with a tag and keeps to the
limits, and two in a row share a register only where a real would be cut. -/
namespace PlcMonitor

namespace Span

/-- A block within the limits, from the first register of a tag to the last register of one. -/
structure Shaped (tags : List TagSpec) (maxSize maxGap : UInt16) (block : Span) : Prop where
  nonempty : 1 ≤ block.count
  size : block.count ≤ maxSize
  last_lt : block.last < registerCount
  begins : ∃ tag ∈ tags, tag.span.first = block.first
  ends : ∃ tag ∈ tags, tag.span.last = block.last
  dense : ∀ start length, (∀ register, start ≤ register → register < start + length →
    block.Holds register ∧ ¬Owned tags register) → length ≤ maxGap.toNat

/-- `later` begins and ends after `earlier`, and has at most its last register, in which a real
begins. -/
structure Follows (tags : List TagSpec) (earlier later : Span) : Prop where
  first_lt : earlier.first < later.first
  last_lt : earlier.last < later.last
  shared : ∀ register, earlier.Holds register → later.Holds register →
    register = earlier.last ∧ ∃ tag ∈ tags, tag.type = .real ∧ tag.span.first.toNat = register

end Span

namespace Window.Addressable
variable {window : Window} (h : window.Addressable)
include h

theorem last_toSpan : window.toSpan.last = window.last :=
  congrArg Window.last h.ofSpan_toSpan

theorem holds_toSpan_iff (register : Nat) :
    window.toSpan.Holds register ↔ window.Holds register := by
  rw [← h.placed_toSpan.holds_iff, h.ofSpan_toSpan]

end Window.Addressable

namespace Run.Split
variable {maxSize maxGap : Nat} {windows : List Window} {a b : Run}
  (split : Split maxSize maxGap windows a b) (sound : a.Sound maxSize maxGap)
  (fits : b.head.Fits maxSize)
include split sound fits

theorem first_lt : a.block.first < b.head.first := by
  refine Nat.lt_of_le_of_ne split.first_le fun same => split.apart (Window.joins_iff.mpr ?_)
  have := sound.fits.nonempty
  have := sound.fits.size
  have := fits.size
  omega

theorem last_lt : a.block.last < b.head.last :=
  Window.last_lt_of_not_joins sound.fits fits.nonempty split.apart

end Run.Split

section Footprints
variable {tags : List TagSpec} (built : ∀ tag ∈ tags, tag.Built)
include built

theorem footprint_last_le : ∀ window ∈ footprints tags, window.last ≤ window.first + 1 := by
  intro window hw
  obtain ⟨tag, htag, rfl⟩ := List.mem_map.mp hw
  obtain ⟨-, count⟩ := (built tag htag).placed
  have small : tag.type.registers.toNat ≤ 2 := by
    cases tag.type <;> decide
  simp only [Window.ofSpan, Span.last, count]
  omega

theorem exists_real_of_lt {window : Window} (hw : window ∈ footprints tags)
    (long : window.first < window.last) :
    ∃ tag ∈ tags, tag.type = .real ∧ tag.span.first.toNat = window.first := by
  obtain ⟨tag, htag, rfl⟩ := List.mem_map.mp hw
  obtain ⟨-, count⟩ := (built tag htag).placed
  refine ⟨tag, htag, ?_, rfl⟩
  have two : 1 < tag.type.registers.toNat := by
    simp only [Window.ofSpan, Span.last, count] at long
    omega
  cases htype : tag.type with
  | real => rfl
  | integer | digital =>
    rw [htype] at two
    exact absurd two (by decide)

end Footprints

section Blocks
variable {tags : List TagSpec} (built : ∀ tag ∈ tags, tag.Built) {maxSize : UInt16}
  (maxGap : UInt16) (large : minBlockSize ≤ maxSize)
include built large

theorem coveringRuns_shaped :
    ∀ run ∈ coveringRuns tags maxSize maxGap, run.block.toSpan.Shaped tags maxSize maxGap := by
  intro run hrun
  have sound := coveringRuns_sound built maxGap large run hrun
  have addressable := coveringRuns_addressable built maxGap large run hrun
  obtain ⟨first, count⟩ := addressable.toNat_toSpan
  have nonempty := sound.fits.nonempty
  have size := sound.fits.size
  refine {
    nonempty := ?nonempty
    size := ?size
    last_lt := addressable.last_toSpan ▸ addressable.last_lt
    begins := ?begins
    ends := ?ends
    dense := ?dense }
  case nonempty =>
    rw [UInt16.le_iff_toNat_le, count]
    exact Nat.le_add_left _ _
  case size =>
    rw [UInt16.le_iff_toNat_le, count]
    omega
  case begins =>
    obtain ⟨tag, htag, head⟩ := List.mem_map.mp (mem_footprints hrun List.mem_cons_self)
    exact ⟨tag, htag, UInt16.toNat.inj ((congrArg Window.first head).trans first.symm)⟩
  case ends =>
    obtain ⟨final, hfinal, -, last⟩ := sound.ends
    obtain ⟨tag, htag, rfl⟩ := List.mem_map.mp (mem_footprints hrun hfinal)
    exact ⟨tag, htag, last.trans addressable.last_toSpan.symm⟩
  case dense =>
    have dense := ((isCover_coveringRuns built maxGap large).legal run.block
      (List.mem_map_of_mem hrun)).dense
    intro start length spare
    exact dense start length fun register from_start below =>
      (spare register from_start below).imp_left (addressable.holds_toSpan_iff register).mp

theorem coveringRuns_follow {a b : Run} (ha : a ∈ coveringRuns tags maxSize maxGap)
    (hb : b ∈ coveringRuns tags maxSize maxGap)
    (split : Run.Split maxSize.toNat maxGap.toNat (footprints tags) a b) :
    a.block.toSpan.Follows tags b.block.toSpan := by
  have sound := coveringRuns_sound built maxGap large a ha
  have head : b.head ∈ footprints tags := mem_footprints hb List.mem_cons_self
  have fits := footprint_fits built (UInt16.le_iff_toNat_le.mp large) b.head head
  have within := (coveringRuns_sound built maxGap large b hb).within b.head List.mem_cons_self
  have earlier := coveringRuns_addressable built maxGap large a ha
  have later := coveringRuns_addressable built maxGap large b hb
  have beyond := split.last_lt sound fits
  refine {
    first_lt := ?first_lt
    last_lt := ?last_lt
    shared := ?shared }
  case first_lt =>
    rw [UInt16.lt_iff_toNat_lt, earlier.toNat_toSpan.1, later.toNat_toSpan.1]
    exact split.first_lt sound fits
  case last_lt =>
    rw [earlier.last_toSpan, later.last_toSpan]
    exact Nat.lt_of_lt_of_le beyond within.2
  case shared =>
    intro register in_a in_b
    -- the head of the later block reaches past the earlier one, and has two registers at most
    have up_to : register ≤ a.block.last := ((earlier.holds_toSpan_iff register).mp in_a).2
    have from_head : b.head.first ≤ register := ((later.holds_toSpan_iff register).mp in_b).1
    have short := footprint_last_le built b.head head
    obtain ⟨tag, htag, real, first⟩ := exists_real_of_lt built head (by omega)
    rw [earlier.last_toSpan]
    exact ⟨by omega, tag, htag, real, by omega⟩

end Blocks

/-- There are blocks for every list of tags; each tag is whole inside one, each block has its shape,
and each follows the one before it. -/
theorem coveringBlocks_shaped {tags : List TagSpec} (built : ∀ tag ∈ tags, tag.Built)
    {maxSize : UInt16} (maxGap : UInt16) (large : minBlockSize ≤ maxSize) :
    ∃ blocks, coveringBlocks tags maxSize maxGap = .ok blocks ∧
      (∀ tag ∈ tags, ∃ block ∈ blocks, block.contains tag.span = true) ∧
      (∀ block ∈ blocks, block.Shaped tags maxSize maxGap) ∧
      blocks.IsChain (Span.Follows tags) := by
  refine ⟨_, coveringBlocks_eq tags maxGap large, fun tag htag => ?_, ?_, ?_⟩
  · obtain ⟨run, hrun, contains, -⟩ := ScanPlan.exists_block_contains built maxGap large htag
    exact ⟨run.block.toSpan, List.mem_map_of_mem hrun, contains⟩
  · exact List.forall_mem_map.mpr (coveringRuns_shaped built maxGap large)
  · have fits := footprint_fits built (UInt16.le_iff_toNat_le.mp large)
    exact (List.isChain_map _).mpr ((Run.ofWindows_isChain maxGap.toNat fits).imp_of_mem_imp
      fun a b ha hb => coveringRuns_follow built maxGap large ha hb)

/-- Two integers that fill a block of two registers, and a real that begins in the second. -/
def crowdedTags : List TagSpec :=
  [{ path := ["flow"], address := 40001, type := .real, base := 1, span := ⟨2, 2⟩ },
   { path := ["level"], address := 40001, type := .integer, base := 1, span := ⟨1, 1⟩ },
   { path := ["speed"], address := 40002, type := .integer, base := 2, span := ⟨2, 1⟩ }]

theorem crowdedTags_built : ∀ tag ∈ crowdedTags, tag.Built := by
  simp only [crowdedTags, List.forall_mem_cons]
  exact ⟨⟨["flow"], { address := 40001, type := .real }, rfl⟩,
    ⟨["level"], { address := 40001, type := .integer }, rfl⟩,
    ⟨["speed"], { address := 40002, type := .integer }, rfl⟩, List.forall_mem_nil _⟩

theorem coveringBlocks_crowdedTags_shaped :
    ∃ blocks, coveringBlocks crowdedTags 2 0 = .ok blocks ∧
      (∀ tag ∈ crowdedTags, ∃ block ∈ blocks, block.contains tag.span = true) ∧
      (∀ block ∈ blocks, block.Shaped crowdedTags 2 0) ∧
      blocks.IsChain (Span.Follows crowdedTags) :=
  coveringBlocks_shaped crowdedTags_built 0 (by decide)

example : coveringBlocks crowdedTags 2 0 = .ok [⟨1, 2⟩, ⟨2, 2⟩] := by rfl

end PlcMonitor
