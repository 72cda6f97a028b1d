import PlcMonitor.Proofs.Scan.Shape

/-! Which blocks of a plan hold a tag: one of them, or two where the tag is the single register in
which one block ends and another begins. -/
namespace PlcMonitor

namespace Span

/-- `later` begins in the last register of `earlier` or behind it, and reaches further. In the first
case a real begins there. -/
structure Before (tags : List TagSpec) (earlier later : Span) : Prop where
  last_le : earlier.last ≤ later.first.toNat
  last_lt : earlier.last < later.last
  shared : earlier.last = later.first.toNat →
    ∃ tag ∈ tags, tag.type = .real ∧ tag.span.first = later.first

/-- Blocks that are not neighbours have no register in common. -/
instance (tags : List TagSpec) : IsTrans Span (Before tags) := ⟨fun a b c ab bc => by
  have := ab.last_lt
  have := bc.last_le
  have := bc.last_lt
  exact ⟨by omega, by omega, fun same => by omega⟩⟩

theorem Follows.before {tags : List TagSpec} {earlier later : Span}
    (follows : earlier.Follows tags later) (earlier_nonempty : 1 ≤ earlier.count)
    (later_nonempty : 1 ≤ later.count) : earlier.Before tags later := by
  have first_lt := UInt16.lt_iff_toNat_lt.mp follows.first_lt
  have some : 1 ≤ earlier.count.toNat := UInt16.le_iff_toNat_le.mp earlier_nonempty
  have other : 1 ≤ later.count.toNat := UInt16.le_iff_toNat_le.mp later_nonempty
  -- where the later one begins, if the earlier one has that register
  have meets : later.first.toNat ≤ earlier.last → later.first.toNat = earlier.last ∧
      ∃ tag ∈ tags, tag.type = .real ∧ tag.span.first.toNat = later.first.toNat := by
    intro reached
    unfold last at reached
    exact follows.shared later.first.toNat ⟨by omega, by omega⟩ ⟨by omega, by omega⟩
  refine ⟨?_, follows.last_lt, ?_⟩
  · apply Nat.le_of_not_lt
    intro inside
    have := (meets (Nat.le_of_lt inside)).1
    omega
  · intro same
    obtain ⟨-, tag, htag, real, first⟩ := meets (Nat.le_of_eq same.symm)
    exact ⟨tag, htag, real, UInt16.toNat.inj first⟩

/-- The span is a single register, the last of one block and the first of one that reaches
further. -/
def OnSeam (blocks : List Span) (span : Span) : Prop :=
  span.count = 1 ∧ ∃ earlier ∈ blocks, ∃ later ∈ blocks, earlier.last < later.last ∧
    earlier.last = span.first.toNat ∧ later.first = span.first

instance (blocks : List Span) (span : Span) : Decidable (span.OnSeam blocks) :=
  inferInstanceAs (Decidable (_ ∧ _))

theorem OnSeam.held {blocks : List Span} (nonempty : ∀ block ∈ blocks, 1 ≤ block.count)
    (seam : span.OnSeam blocks) : ∃ earlier ∈ blocks, ∃ later ∈ blocks,
      earlier.last < later.last ∧ earlier.contains span = true ∧ later.contains span = true := by
  obtain ⟨single, earlier, hearlier, later, hlater, further, ends, begins⟩ := seam
  have some : 1 ≤ earlier.count.toNat := UInt16.le_iff_toNat_le.mp (nonempty earlier hearlier)
  have one : span.count.toNat = 1 := congrArg UInt16.toNat single
  have := congrArg UInt16.toNat begins
  refine ⟨earlier, hearlier, later, hlater, further, ?_, ?_⟩
  all_goals
    rw [contains_iff]
    unfold last at *
    omega

section Holders
variable {tags : List TagSpec} {span : Span} (placed : span.Placed)
include placed

/-- What two blocks hold is where they meet. -/
theorem Before.meet {earlier later : Span} (before : earlier.Before tags later)
    (first : earlier.contains span = true) (second : later.contains span = true) :
    span.count = 1 ∧ earlier.last = span.first.toNat ∧ later.first = span.first := by
  have := before.last_le
  have := placed.pos
  rw [contains_iff] at first second
  unfold last at *
  refine ⟨UInt16.toNat.inj ?_, by omega, UInt16.toNat.inj (by omega)⟩
  change span.count.toNat = 1
  omega

/-- A tag that is in a block at all is in one, or in the two that meet in it. -/
theorem length_holders {blocks : List Span} (before : blocks.Pairwise (Before tags))
    (nonempty : ∀ block ∈ blocks, 1 ≤ block.count)
    (held : ∃ block ∈ blocks, block.contains span = true) :
    (blocks.filter (·.contains span)).length = if span.OnSeam blocks then 2 else 1 := by
  have holds : ∀ block ∈ blocks.filter (·.contains span),
      block ∈ blocks ∧ block.contains span = true := fun block h => List.mem_filter.mp h
  have all : ∀ block ∈ blocks, block.contains span = true →
      block ∈ blocks.filter (·.contains span) :=
    fun block h inside => List.mem_filter.mpr ⟨h, inside⟩
  have inOrder := before.filter (·.contains span)
  generalize blocks.filter (·.contains span) = holders at holds all inOrder
  match holders with
  | [] =>
    obtain ⟨block, hblock, inside⟩ := held
    exact absurd (all block hblock inside) List.not_mem_nil
  | [only] =>
    rw [if_neg]
    · rfl
    intro seam
    obtain ⟨earlier, hearlier, later, hlater, further, first, second⟩ := seam.held nonempty
    obtain rfl := List.mem_singleton.mp (all earlier hearlier first)
    obtain rfl := List.mem_singleton.mp (all later hlater second)
    exact absurd further (Nat.lt_irrefl _)
  | [earlier, later] =>
    rw [if_pos]
    · rfl
    have follows : earlier.Before tags later :=
      (List.pairwise_cons.mp inOrder).1 later List.mem_cons_self
    obtain ⟨hearlier, first⟩ := holds earlier (by simp)
    obtain ⟨hlater, second⟩ := holds later (by simp)
    obtain ⟨single, ends, begins⟩ := follows.meet placed first second
    exact ⟨single, earlier, hearlier, later, hlater, follows.last_lt, ends, begins⟩
  | first :: second :: third :: _ =>
    -- the first and the third are too far apart
    simp only [List.pairwise_cons, List.mem_cons, forall_eq_or_imp] at inOrder
    have := inOrder.1.1.last_lt
    have := inOrder.2.1.1.last_le
    have low := ((contains_iff _ _).mp (holds first (by simp)).2).2
    have high := ((contains_iff _ _).mp (holds third (by simp)).2).1
    have := placed.pos
    unfold last at *
    omega

end Holders

theorem OnSeam.real {tags : List TagSpec} {blocks : List Span} {span : Span}
    (before : blocks.Pairwise (Before tags)) (seam : span.OnSeam blocks) :
    ∃ tag ∈ tags, tag.type = .real ∧ tag.span.first = span.first := by
  obtain ⟨-, earlier, hearlier, later, hlater, further, ends, begins⟩ := seam
  rw [← begins]
  have apart : earlier ≠ later := fun same => Nat.lt_irrefl _ (same ▸ further)
  have : Std.Symm fun a b : Span => a.Before tags b ∨ b.Before tags a := ⟨fun _ _ => Or.symm⟩
  have either : blocks.Pairwise fun a b => a.Before tags b ∨ b.Before tags a := before.imp Or.inl
  rcases either.forall hearlier hlater apart with inOrder | turned
  · exact inOrder.shared (ends.trans (congrArg UInt16.toNat begins).symm)
  · exact absurd further (Nat.not_lt_of_lt turned.last_lt)

end Span

section Blocks
variable {tags : List TagSpec} (built : ∀ tag ∈ tags, tag.Built) {maxSize : UInt16}
  (maxGap : UInt16) (large : minBlockSize ≤ maxSize)
include built large

theorem coveringRuns_before :
    ((coveringRuns tags maxSize maxGap).map fun run => run.block.toSpan).Pairwise
      (Span.Before tags) := by
  have fits := footprint_fits built (UInt16.le_iff_toNat_le.mp large)
  have shaped := coveringRuns_shaped built maxGap large
  rw [← List.isChain_iff_pairwise, List.isChain_map]
  refine (Run.ofWindows_isChain maxGap.toNat fits).imp_of_mem_imp fun a b ha hb split => ?_
  have follows := coveringRuns_follow built maxGap large ha hb split
  exact follows.before (shaped a ha).nonempty (shaped b hb).nonempty

theorem coveringRuns_nonempty :
    ∀ block ∈ (coveringRuns tags maxSize maxGap).map fun run => run.block.toSpan,
      1 ≤ block.count := by
  refine List.forall_mem_map.mpr fun run hrun => ?_
  exact (coveringRuns_shaped built maxGap large run hrun).nonempty

end Blocks
end PlcMonitor
