import Mathlib.Data.List.Perm.Subperm
import PlcMonitor.Proofs.Scan.Run
import PlcMonitor.Proofs.Tag.Spec

/-! The blocks of a list of tags are a cover of their registers, and no cover within the same limits
has fewer ranges. -/
namespace PlcMonitor

def Owned (tags : List TagSpec) (register : Nat) : Prop := ∃ tag ∈ tags, tag.span.Holds register

/-- At most `maxSize` registers, and no more than `maxGap` in a row that are not `owned`. -/
structure Window.Legal (owned : Nat → Prop) (maxSize maxGap : Nat) (range : Window) : Prop where
  size : range.last < range.first + maxSize
  dense : range.Dense owned maxGap

/-- Ranges within the limits that hold every tag whole. -/
structure IsCover (tags : List TagSpec) (maxSize maxGap : Nat) (ranges : List Window) : Prop where
  whole : ∀ tag ∈ tags, ∃ range ∈ ranges, ∀ register, tag.span.Holds register →
    range.Holds register
  legal : ∀ range ∈ ranges, range.Legal (Owned tags) maxSize maxGap

def footprints (tags : List TagSpec) : List Window := tags.map fun tag => .ofSpan tag.span

namespace Span.Placed
variable {span : Span} (placed : span.Placed)
include placed

theorem holds_iff (register : Nat) :
    (Window.ofSpan span).Holds register ↔ span.Holds register := by
  have := placed.pos
  simp only [Window.Holds, Window.ofSpan, Span.Holds, Span.last]
  omega

theorem within_iff (range : Window) : (Window.ofSpan span).Within range ↔
    ∀ register, span.Holds register → range.Holds register := by
  have := placed.pos
  simp only [Window.Within, Window.ofSpan, Window.Holds, Span.Holds, Span.last]
  refine ⟨fun h register hr => by omega, fun h => ?_⟩
  have first := h span.first.toNat (by omega)
  have last := h (span.first.toNat + span.count.toNat - 1) (by omega)
  omega

theorem fits {maxSize : Nat} (large : span.count.toNat ≤ maxSize) :
    (Window.ofSpan span).Fits maxSize := by
  have := placed.pos
  constructor <;> simp only [Window.ofSpan, Span.last] <;> omega

end Span.Placed

section Footprints
variable {tags : List TagSpec} (built : ∀ tag ∈ tags, tag.Built)
include built

theorem footprint_fits {maxSize : Nat} (large : minBlockSize.toNat ≤ maxSize) :
    ∀ window ∈ footprints tags, window.Fits maxSize := by
  intro window hw
  obtain ⟨tag, htag, rfl⟩ := List.mem_map.mp hw
  obtain ⟨placed, count⟩ := (built tag htag).placed
  have small : tag.type.registers.toNat ≤ minBlockSize.toNat := by
    cases tag.type <;> decide
  exact placed.fits (by rw [count]; omega)

theorem footprint_last_lt : ∀ window ∈ footprints tags, window.last < registerCount := by
  intro window hw
  obtain ⟨tag, htag, rfl⟩ := List.mem_map.mp hw
  have := (built tag htag).placed.1.end_le
  have := (built tag htag).placed.1.pos
  simp only [Window.ofSpan, Span.last]
  omega

theorem owned_iff (register : Nat) :
    Owned tags register ↔ ∃ window ∈ footprints tags, window.Holds register := by
  simp only [Owned, footprints, List.mem_map, exists_exists_and_eq_and]
  exact exists_congr fun tag => and_congr_right fun htag =>
    ((built tag htag).placed.1.holds_iff register).symm

end Footprints

namespace Window

/-- Registers that there are, and not so many that their number takes more than sixteen bits. -/
structure Addressable (window : Window) : Prop where
  nonempty : window.first ≤ window.last
  small : window.last - window.first + 1 < registerCount
  last_lt : window.last < registerCount

section Addressable
variable {window : Window} (h : window.Addressable)
include h

theorem Addressable.toNat_toSpan : window.toSpan.first.toNat = window.first ∧
    window.toSpan.count.toNat = window.last - window.first + 1 := by
  obtain ⟨nonempty, small, last⟩ := h
  unfold registerCount at small last
  simp only [toSpan, Nat.toUInt16_eq, UInt16.toNat_ofNat']
  omega

theorem Addressable.ofSpan_toSpan : ofSpan window.toSpan = window := by
  obtain ⟨first, count⟩ := h.toNat_toSpan
  have := h.nonempty
  rw [ofSpan, Span.last, first, count]
  exact congrArg (Window.mk _) (by omega)

theorem Addressable.placed_toSpan : window.toSpan.Placed := by
  obtain ⟨first, count⟩ := h.toNat_toSpan
  have := h.nonempty
  have := h.last_lt
  exact ⟨by omega, by omega⟩

end Addressable

/-- No range within the limits holds two windows that are apart. -/
structure Apart (legal : Window → Prop) (a b : Window) : Prop where
  first_le : a.first ≤ b.first
  last_le : a.last ≤ b.last
  separate : ∀ range, legal range → a.Within range → ¬b.Within range

instance (legal : Window → Prop) : IsTrans Window (Apart legal) := ⟨fun _ _ _ ab bc =>
  ⟨Nat.le_trans ab.first_le bc.first_le, Nat.le_trans ab.last_le bc.last_le,
    fun range allowed ha hc => ab.separate range allowed ha
      ⟨Nat.le_trans ha.1 ab.first_le, Nat.le_trans bc.last_le hc.2⟩⟩⟩

/-- Each of the windows needs a range of its own. -/
theorem length_le_of_apart {legal : Window → Prop} {windows ranges : List Window}
    (apart : windows.Pairwise (Apart legal)) (allowed : ∀ range ∈ ranges, legal range)
    (held : ∀ window ∈ windows, ∃ range ∈ ranges, window.Within range) :
    windows.length ≤ ranges.length := by
  have : Nonempty Window := ⟨⟨0, 0⟩⟩
  choose! holder mem within using held
  have nodup : (windows.map holder).Nodup := by
    refine List.pairwise_map.mpr (apart.imp_of_mem fun {a b} ha hb h same => ?_)
    exact h.separate (holder a) (allowed _ (mem a ha)) (within a ha) (same ▸ within b hb)
  have subset : windows.map holder ⊆ ranges := by
    intro range hr
    obtain ⟨window, hw, rfl⟩ := List.mem_map.mp hr
    exact mem window hw
  simpa using (nodup.subperm subset).length_le

end Window

namespace Run

theorem Split.apart_heads {maxSize maxGap : Nat} {windows : List Window} {a b : Run}
    (split : Split maxSize maxGap windows a b) (sound : a.Sound maxSize maxGap)
    (nonempty : b.head.first ≤ b.head.last) :
    Window.Apart
      (Window.Legal (fun register => ∃ window ∈ windows, window.Holds register) maxSize maxGap)
      a.head b.head := by
  have beyond := Window.last_lt_of_not_joins sound.fits nonempty split.apart
  have head_last : a.head.last ≤ a.block.last := (sound.within a.head List.mem_cons_self).2
  have first_le : a.head.first ≤ b.head.first := split.first_le
  have first_le_last := sound.fits.nonempty
  refine ⟨first_le, by omega, fun range ⟨size, dense⟩ holds_a holds_b => split.apart ?_⟩
  have a_first : range.first ≤ a.block.first := holds_a.1
  refine Window.joins_iff.mpr ⟨?_, ?_⟩
  · -- what lies between the blocks belongs to no window
    have unused := dense (a.block.last + 1) (b.head.first - (a.block.last + 1)) ?_
    · omega
    intro register from_end below
    refine ⟨⟨?_, ?_⟩, fun ⟨window, hw, owns⟩ => ?_⟩
    · omega
    · have := holds_b.2
      omega
    · have := owns.1
      have := owns.2
      rcases split.beside window hw with before | after <;> omega
  · have := holds_b.2
    omega

end Run

def coveringRuns (tags : List TagSpec) (maxSize maxGap : UInt16) : List Run :=
  Run.ofWindows maxSize.toNat maxGap.toNat (footprints tags)

theorem coveringBlocks_eq (tags : List TagSpec) {maxSize : UInt16} (maxGap : UInt16)
    (large : minBlockSize ≤ maxSize) :
    coveringBlocks tags maxSize maxGap =
      .ok ((coveringRuns tags maxSize maxGap).map fun run => run.block.toSpan) := by
  rw [coveringBlocks, if_neg (UInt16.not_lt.mpr large), Run.blocksOfWindows_eq]
  rfl

theorem mem_footprints {tags : List TagSpec} {maxSize maxGap : UInt16} {run : Run}
    (hrun : run ∈ coveringRuns tags maxSize maxGap) {window : Window}
    (hw : window ∈ run.members) : window ∈ footprints tags :=
  (Run.exists_run_iff maxSize.toNat maxGap.toNat).mp ⟨run, hrun, hw⟩

theorem exists_coveringRun {tags : List TagSpec} (maxSize maxGap : UInt16) {tag : TagSpec}
    (htag : tag ∈ tags) :
    ∃ run ∈ coveringRuns tags maxSize maxGap, Window.ofSpan tag.span ∈ run.members :=
  (Run.exists_run_iff maxSize.toNat maxGap.toNat).mpr (List.mem_map_of_mem htag)

section Blocks
variable {tags : List TagSpec} (built : ∀ tag ∈ tags, tag.Built) {maxSize : UInt16}
  (maxGap : UInt16) (large : minBlockSize ≤ maxSize)
include built large

theorem coveringRuns_sound :
    ∀ run ∈ coveringRuns tags maxSize maxGap, run.Sound maxSize.toNat maxGap.toNat :=
  Run.ofWindows_sound _ (footprint_fits built (UInt16.le_iff_toNat_le.mp large))

/-- No block is cut when its numbers become words of sixteen bits. -/
theorem coveringRuns_addressable :
    ∀ run ∈ coveringRuns tags maxSize maxGap, run.block.Addressable := by
  intro run hrun
  have sound := coveringRuns_sound built maxGap large run hrun
  obtain ⟨final, hfinal, -, last⟩ := sound.ends
  have final_last := footprint_last_lt built final (mem_footprints hrun hfinal)
  have := sound.fits.nonempty
  have := sound.fits.size
  have := maxSize.toNat_lt
  exact ⟨sound.fits.nonempty, by unfold registerCount; omega, last ▸ final_last⟩

theorem isCover_coveringRuns : IsCover tags maxSize.toNat maxGap.toNat
    ((coveringRuns tags maxSize maxGap).map Run.block) where
  whole tag htag := by
    obtain ⟨run, hrun, hmember⟩ := exists_coveringRun maxSize maxGap htag
    have within := (coveringRuns_sound built maxGap large run hrun).within _ hmember
    exact ⟨run.block, List.mem_map_of_mem hrun, ((built tag htag).placed.1.within_iff _).mp within⟩
  legal := List.forall_mem_map.mpr fun run hrun => by
    have sound := coveringRuns_sound built maxGap large run hrun
    refine ⟨sound.fits.size, sound.dense.mono fun register ⟨window, hw, owns⟩ => ?_⟩
    exact (owned_iff built register).mpr ⟨window, mem_footprints hrun hw, owns⟩

theorem coveringRuns_apart :
    ((coveringRuns tags maxSize maxGap).map Run.head).Pairwise
      (Window.Apart (Window.Legal (Owned tags) maxSize.toNat maxGap.toNat)) := by
  have fits := footprint_fits built (UInt16.le_iff_toNat_le.mp large)
  rw [funext fun register => propext (owned_iff built register), ← List.isChain_iff_pairwise,
    List.isChain_map]
  refine (Run.ofWindows_isChain maxGap.toNat fits).imp_of_mem_imp fun a b ha hb split => ?_
  exact split.apart_heads (coveringRuns_sound built maxGap large a ha)
    (fits b.head (mem_footprints hb List.mem_cons_self)).nonempty

end Blocks

/-- The blocks hold every tag whole within the limits of size and of unused registers, and every
list of ranges that does has as many ranges or more. -/
theorem coveringBlocks_least {tags : List TagSpec} (built : ∀ tag ∈ tags, tag.Built)
    {maxSize : UInt16} (maxGap : UInt16) (large : minBlockSize ≤ maxSize) :
    ∃ blocks, coveringBlocks tags maxSize maxGap = .ok blocks ∧
      IsCover tags maxSize.toNat maxGap.toNat (blocks.map .ofSpan) ∧
      ∀ ranges, IsCover tags maxSize.toNat maxGap.toNat ranges →
        blocks.length ≤ ranges.length := by
  refine ⟨_, coveringBlocks_eq tags maxGap large, ?_, fun ranges cover => ?_⟩
  · have blocks := List.map_congr_left fun run hrun =>
      (coveringRuns_addressable built maxGap large run hrun).ofSpan_toSpan
    rw [List.map_map]
    exact blocks ▸ isCover_coveringRuns built maxGap large
  · have counted := Window.length_le_of_apart (coveringRuns_apart built maxGap large) cover.legal ?_
    · simpa using counted
    refine List.forall_mem_map.mpr fun run hrun => ?_
    obtain ⟨tag, htag, head⟩ := List.mem_map.mp (mem_footprints hrun List.mem_cons_self)
    obtain ⟨range, hr, holds⟩ := cover.whole tag htag
    exact ⟨range, hr, head ▸ ((built tag htag).placed.1.within_iff range).mpr holds⟩

/-- A real and an integer with a register in common, and a digital too far away for their block. -/
def mixedTags : List TagSpec :=
  [{ path := ["flow"], address := 40001, type := .real, base := 1, span := ⟨2, 2⟩ },
   { path := ["level"], address := 40003, type := .integer, base := 3, span := ⟨3, 1⟩ },
   { path := ["pump"], address := 40010, type := .digital, base := 10, span := ⟨10, 1⟩ }]

theorem mixedTags_built : ∀ tag ∈ mixedTags, tag.Built := by
  simp only [mixedTags, List.forall_mem_cons]
  exact ⟨⟨["flow"], { address := 40001, type := .real }, rfl⟩,
    ⟨["level"], { address := 40003, type := .integer }, rfl⟩,
    ⟨["pump"], { address := 40010, type := .digital }, rfl⟩, List.forall_mem_nil _⟩

theorem coveringBlocks_mixedTags_least :
    ∃ blocks, coveringBlocks mixedTags 120 2 = .ok blocks ∧
      IsCover mixedTags 120 2 (blocks.map .ofSpan) ∧
      ∀ ranges, IsCover mixedTags 120 2 ranges → blocks.length ≤ ranges.length :=
  coveringBlocks_least mixedTags_built 2 (by decide)

example : coveringBlocks mixedTags 120 2 = .ok [⟨2, 2⟩, ⟨10, 1⟩] := by rfl

end PlcMonitor
