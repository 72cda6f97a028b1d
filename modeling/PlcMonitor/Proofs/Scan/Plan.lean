import PlcMonitor.Proofs.Scan.Cover
import PlcMonitor.Scan.Plan

/-! Reading the blocks of a plan gives what reading each of its tags by itself would give. -/
namespace PlcMonitor

theorem Span.contains_of_within {outer inner : Span} (outer_placed : outer.Placed)
    (inner_placed : inner.Placed) (within : (Window.ofSpan inner).Within (.ofSpan outer)) :
    outer.contains inner = true ∧
      inner.first.toNat - outer.first.toNat + inner.count.toNat ≤ outer.count.toNat := by
  have := outer_placed.pos
  have := inner_placed.pos
  simp only [Window.Within, Window.ofSpan] at within
  refine ⟨(contains_iff outer inner).mpr within, ?_⟩
  simp only [last] at within
  omega

namespace ScanPlan

/-- From the words of a block a tag is read as from its own. -/
theorem decodeTag_words (block : Span) (memory : UInt16 → UInt16) (tag : TagSpec) :
    decodeTag block (block.words memory) tag =
      if block.contains tag.span = true ∧
          tag.span.first.toNat - block.first.toNat + tag.span.count.toNat ≤ block.count.toNat then
        tag.decode (tag.span.words memory)
      else none := by
  unfold decodeTag
  simp only [Bool.and_eq_true, decide_eq_true_eq, Span.length_words]
  split
  · rename_i inside
    rw [Span.words_slice memory ((Span.contains_iff _ _).mp inside.1).1 inside.2]
  · rfl

theorem mem_decode_iff (plan : ScanPlan) (block : Span) (words : List UInt16) (tag : TagSpec)
    (reading : Reading) : (tag, reading) ∈ plan.decode block words ↔
      tag ∈ plan.tags ∧ decodeTag block words tag = some reading := by
  simp only [decode, List.mem_filterMap, Option.map_eq_some_iff, Prod.mk.injEq]
  constructor
  · rintro ⟨_, htag, _, hreading, rfl, rfl⟩
    exact ⟨htag, hreading⟩
  · rintro ⟨htag, hreading⟩
    exact ⟨tag, htag, reading, hreading, rfl, rfl⟩

theorem build_eq {tree : TagTree} {tags : List TagSpec} (flat : tree.flatten = .ok tags)
    {settings : ScanSettings} {blocks : List Span}
    (covering : coveringBlocks tags settings.maxBlockSize settings.maxGap = .ok blocks) :
    build tree settings = .ok ⟨tags, blocks⟩ := by
  have planned : ofTags tags settings.maxBlockSize settings.maxGap = .ok ⟨tags, blocks⟩ := by
    rw [ofTags, covering]
    rfl
  rw [build, flat]
  exact congrArg (Except.mapError PlanFault.blockSize) planned

theorem tags_of_build {tree : TagTree} {settings : ScanSettings} {plan : ScanPlan}
    (h : build tree settings = .ok plan) : tree.flatten = .ok plan.tags := by
  obtain ⟨tags, flat, h⟩ := bind_eq_ok.mp h
  obtain ⟨blocks, -, h⟩ := bind_eq_ok.mp (mapError_eq_ok.mp h)
  cases h
  exact mapError_eq_ok.mp flat

theorem exists_block_contains {tags : List TagSpec} (built : ∀ tag ∈ tags, tag.Built)
    {maxSize : UInt16} (maxGap : UInt16) (large : minBlockSize ≤ maxSize) {tag : TagSpec}
    (htag : tag ∈ tags) :
    ∃ run ∈ coveringRuns tags maxSize maxGap, run.block.toSpan.contains tag.span = true ∧
      tag.span.first.toNat - run.block.toSpan.first.toNat + tag.span.count.toNat ≤
        run.block.toSpan.count.toNat := by
  obtain ⟨run, hrun, hmember⟩ := exists_coveringRun maxSize maxGap htag
  have addressable := coveringRuns_addressable built maxGap large run hrun
  refine ⟨run, hrun, Span.contains_of_within addressable.placed_toSpan (built tag htag).placed.1 ?_⟩
  rw [addressable.ofSpan_toSpan]
  exact (coveringRuns_sound built maxGap large run hrun).within _ hmember

/-- For every memory, the readings from the blocks of a plan are those of its tags, each read from
its own registers. -/
theorem build_decode_iff {tree : TagTree} {tags : List TagSpec} (flat : tree.flatten = .ok tags)
    {settings : ScanSettings} (large : minBlockSize ≤ settings.maxBlockSize) :
    ∃ plan, build tree settings = .ok plan ∧ plan.tags = tags ∧
      ∀ (memory : UInt16 → UInt16) (tag : TagSpec) (reading : Reading),
        (∃ block ∈ plan.blocks, (tag, reading) ∈ plan.decode block (block.words memory)) ↔
          tag ∈ plan.tags ∧ tag.decode (tag.span.words memory) = some reading := by
  have built := TagTree.flatten_built flat
  refine ⟨_, build_eq flat (coveringBlocks_eq tags settings.maxGap large), rfl,
    fun memory tag reading => ?_⟩
  simp only [mem_decode_iff, decodeTag_words]
  constructor
  · rintro ⟨block, -, htag, read⟩
    obtain ⟨-, read⟩ := Option.ite_none_right_eq_some.mp read
    exact ⟨htag, read⟩
  · rintro ⟨htag, read⟩
    obtain ⟨run, hrun, inside⟩ := exists_block_contains built settings.maxGap large htag
    exact ⟨run.block.toSpan, List.mem_map_of_mem hrun, htag, by rw [if_pos inside, read]⟩

theorem build_mixedTags_decode_iff :
    ∃ plan, build (.group [("flow", .tag { address := 40001, type := .real }),
        ("level", .tag { address := 40003, type := .integer }),
        ("pump", .tag { address := 40010, type := .digital })]) {} = .ok plan ∧
      plan.tags = mixedTags ∧
      ∀ (memory : UInt16 → UInt16) (tag : TagSpec) (reading : Reading),
        (∃ block ∈ plan.blocks, (tag, reading) ∈ plan.decode block (block.words memory)) ↔
          tag ∈ plan.tags ∧ tag.decode (tag.span.words memory) = some reading :=
  build_decode_iff rfl (by decide)

end ScanPlan
end PlcMonitor
