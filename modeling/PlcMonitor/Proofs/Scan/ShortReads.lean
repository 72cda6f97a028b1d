import PlcMonitor.Proofs.Scan.Guarded
import PlcMonitor.Proofs.Scan.Plan

/-! Reads that deliver fewer or more words than their block has registers. A tag is read from the
words of its own registers, and only if all of them were delivered. -/
namespace PlcMonitor

theorem mapM_range'_eq_some_iff {α : Type} {f : Nat → Option α} {start count : Nat}
    {found : List α} :
    (List.range' start count).mapM f = some found ↔
      found.length = count ∧ ∀ i < count, f (start + i) = found[i]? := by
  induction count generalizing start found with
  | zero => cases found <;> simp
  | succ count ih =>
    rw [List.range'_succ, List.mapM_cons]
    cases found with
    | nil => simp [Option.bind_eq_some_iff]
    | cons first rest =>
      have later : (∀ i < count + 1, f (start + i) = (first :: rest)[i]?) ↔
          f start = some first ∧ ∀ i < count, f (start + 1 + i) = rest[i]? := by
        rw [Nat.forall_lt_succ_left]
        simp [Nat.add_comm, Nat.add_left_comm]
      simp only [Option.bind_eq_bind, Option.bind_eq_some_iff, Option.pure_def, Option.some.injEq,
        List.cons.injEq, ih, later, List.length_cons]
      constructor
      · rintro ⟨_, found, _, others, rfl, rfl⟩
        exact ⟨by rw [others.1], found, others.2⟩
      · rintro ⟨length, found, others⟩
        exact ⟨first, found, rest, ⟨Nat.succ.inj length, others⟩, rfl, rfl⟩

namespace Span

instance (span : Span) (register : Nat) : Decidable (span.Holds register) :=
  inferInstanceAs (Decidable (_ ∧ _))

def wordAt? (block : Span) (words : List UInt16) (register : Nat) : Option UInt16 :=
  if block.Holds register then words[register - block.first.toNat]? else none

/-- The words of a span, if every register of it is in the block and was delivered. -/
def wordsOf? (block : Span) (words : List UInt16) (span : Span) : Option (List UInt16) :=
  (List.range' span.first.toNat span.count.toNat).mapM (block.wordAt? words)

section Inside
variable {block span : Span} (nonempty : 0 < block.count.toNat) (placed : 0 < span.count.toNat)
include nonempty placed

theorem contains_iff_holds :
    block.contains span = true ↔ ∀ i < span.count.toNat, block.Holds (span.first.toNat + i) := by
  rw [contains_iff]
  unfold Holds last
  constructor
  · rintro ⟨begins, ends⟩ i within
    omega
  · intro holds
    have first := holds 0 placed
    have final := holds (span.count.toNat - 1) (by omega)
    omega

theorem wordsOf?_eq (words : List UInt16) :
    block.wordsOf? words span =
      if block.contains span = true ∧
          span.first.toNat - block.first.toNat + span.count.toNat ≤ words.length then
        some ((words.drop (span.first.toNat - block.first.toNat)).take span.count.toNat)
      else none := by
  apply Option.ext
  intro own
  rw [wordsOf?, mapM_range'_eq_some_iff, Option.ite_none_right_eq_some,
    contains_iff_holds nonempty placed, Option.some.injEq]
  constructor
  · rintro ⟨length, each⟩
    have delivered (i : Nat) (within : i < span.count.toNat) :
        block.Holds (span.first.toNat + i) ∧
          words[span.first.toNat + i - block.first.toNat]? = some own[i] := by
      have here := each i within
      rw [List.getElem?_eq_getElem (by omega)] at here
      exact Option.ite_none_right_eq_some.mp here
    -- the first register puts the slice behind the block's beginning, the last within the words
    have begins := (delivered 0 placed).1.1
    have final := (delivered (span.count.toNat - 1) (by omega)).2
    have enough := (List.getElem?_eq_some_iff.mp final).1
    refine ⟨⟨fun i within => (delivered i within).1, by omega⟩, ?_⟩
    apply List.ext_getElem
    · simp only [List.length_take, List.length_drop]
      omega
    · intro i _ within
      have here := (List.getElem?_eq_some_iff.mp (delivered i (length ▸ within)).2).2
      rw [List.getElem_take, List.getElem_drop, ← here]
      congr 1
      omega
  · rintro ⟨⟨holds, enough⟩, rfl⟩
    have begins := (holds 0 placed).1
    refine ⟨by simp only [List.length_take, List.length_drop]; omega, fun i within => ?_⟩
    rw [wordAt?, if_pos (holds i within), List.getElem?_take_of_lt within, List.getElem?_drop]
    congr 1
    omega

end Inside
end Span

namespace ScanPlan
variable {block : Span} {tag : TagSpec}

theorem decodeTag_eq (nonempty : 0 < block.count.toNat) (placed : 0 < tag.span.count.toNat)
    (words : List UInt16) :
    decodeTag block words tag = (block.wordsOf? words tag.span).bind tag.decode := by
  rw [Span.wordsOf?_eq nonempty placed]
  cases inside : block.contains tag.span with
  | false =>
    rw [decodeTag_of_not_contains inside]
    simp
  | true =>
    rw [decodeTag_of_contains inside]
    by_cases delivered :
        tag.span.first.toNat - block.first.toNat + tag.span.count.toNat ≤ words.length
    · rw [if_pos delivered, if_pos ⟨rfl, delivered⟩]
      rfl
    · rw [if_neg delivered, if_neg fun h => delivered h.2]
      rfl

/-- From the first words a tag is read as from all, if its registers are among the first. -/
theorem decodeTag_take (placed : 0 < tag.span.count.toNat) (words : List UInt16) (n : Nat) :
    decodeTag block (words.take n) tag =
      if tag.span.last < block.first.toNat + n then decodeTag block words tag else none := by
  cases inside : block.contains tag.span with
  | false =>
    rw [decodeTag_of_not_contains inside, decodeTag_of_not_contains inside, ite_self]
  | true =>
    have begins := ((Span.contains_iff block tag.span).mp inside).1
    have reached : tag.span.last < block.first.toNat + n ↔
        tag.span.first.toNat - block.first.toNat + tag.span.count.toNat ≤ n := by
      unfold Span.last
      omega
    simp only [decodeTag_of_contains inside, reached, List.length_take, Nat.le_min]
    by_cases early : tag.span.first.toNat - block.first.toNat + tag.span.count.toNat ≤ n
    · have slice : ((words.take n).drop (tag.span.first.toNat - block.first.toNat)).take
          tag.span.count.toNat =
            (words.drop (tag.span.first.toNat - block.first.toNat)).take tag.span.count.toNat := by
        rw [List.drop_take, List.take_take, Nat.min_eq_left (by omega)]
      simp [early, slice]
    · simp [early]

theorem decode_eq_filterMap (nonempty : 0 < block.count.toNat) {plan : ScanPlan}
    (built : ∀ tag ∈ plan.tags, tag.Built) (words : List UInt16) :
    plan.decode block words = plan.tags.filterMap fun tag =>
      ((block.wordsOf? words tag.span).bind tag.decode).map fun reading => (tag, reading) :=
  List.filterMap_congr fun tag htag => by
    rw [decodeTag_eq nonempty (built tag htag).placed.1.pos]

theorem decode_take {plan : ScanPlan} (built : ∀ tag ∈ plan.tags, tag.Built) (words : List UInt16)
    (n : Nat) :
    plan.decode block (words.take n) =
      (plan.decode block words).filter fun entry => entry.1.span.last < block.first.toNat + n := by
  unfold decode
  rw [List.filter_filterMap]
  refine List.filterMap_congr fun tag htag => ?_
  rw [decodeTag_take (built tag htag).placed.1.pos]
  cases decodeTag block words tag with
  | none =>
    rw [ite_self]
    rfl
  | some reading => split <;> simp_all [Option.filter]

theorem decode_take_count (nonempty : 0 < block.count.toNat) {plan : ScanPlan}
    (built : ∀ tag ∈ plan.tags, tag.Built) (words : List UInt16) :
    plan.decode block (words.take block.count.toNat) = plan.decode block words := by
  refine List.filterMap_congr fun tag htag => ?_
  rw [decodeTag_take (built tag htag).placed.1.pos]
  cases inside : block.contains tag.span with
  | false => rw [decodeTag_of_not_contains inside, ite_self]
  | true =>
    have ends := ((Span.contains_iff block tag.span).mp inside).2
    have within : tag.span.last < block.first.toNat + block.count.toNat := by
      refine Nat.lt_of_le_of_lt ends ?_
      unfold Span.last
      omega
    rw [if_pos within]

/-- Decoding runs through in machine words, whatever block was read and however many words it
delivered. A reading is given of each tag, in their order, of which every register is in the block
and was delivered, from the words of these registers. So the first words give the readings of the
tags that end among them, and words behind the block none. -/
theorem decode_delivered {tree : TagTree} {settings : ScanSettings} {plan : ScanPlan}
    (planned : build tree settings = .ok plan) {block : Span} (nonempty : 1 ≤ block.count)
    (words : List UInt16) :
    Guarded.decode plan block words = .ok (plan.decode block words) ∧
    (plan.decode block words = plan.tags.filterMap fun tag =>
      ((block.wordsOf? words tag.span).bind tag.decode).map fun reading => (tag, reading)) ∧
    (∀ n, plan.decode block (words.take n) =
      (plan.decode block words).filter fun entry => entry.1.span.last < block.first.toNat + n) ∧
    ∀ others, others.take block.count.toNat = words.take block.count.toNat →
      plan.decode block others = plan.decode block words := by
  have built := TagTree.flatten_built (tags_of_build planned)
  have nonempty : 0 < block.count.toNat := UInt16.le_iff_toNat_le.mp nonempty
  refine ⟨Guarded.decode_eq nonempty built words, decode_eq_filterMap nonempty built words,
    decode_take built words, fun others same => ?_⟩
  rw [← decode_take_count nonempty built others, same, decode_take_count nonempty built words]

def lineTree : TagTree :=
  .group [("level", .tag { address := 40003, type := .integer }),
    ("flow", .tag { address := 40003, type := .real }),
    ("pump", .tag { address := 40010, type := .digital })]

/-- The block begins before the level and ends behind the flow, whose second word is missing. -/
theorem decode_lineTree_delivered :
    ∃ plan, build lineTree {} = .ok plan ∧ 1 ≤ (⟨2, 4⟩ : Span).count ∧
      Guarded.decode plan ⟨2, 4⟩ [7, 42, 16934] = .ok (plan.decode ⟨2, 4⟩ [7, 42, 16934]) ∧
      (plan.decode ⟨2, 4⟩ [7, 42, 16934] = plan.tags.filterMap fun tag =>
        ((Span.wordsOf? ⟨2, 4⟩ [7, 42, 16934] tag.span).bind tag.decode).map
          fun reading => (tag, reading)) ∧
      (∀ n, plan.decode ⟨2, 4⟩ (List.take n [7, 42, 16934]) =
        (plan.decode ⟨2, 4⟩ [7, 42, 16934]).filter fun entry => entry.1.span.last < 2 + n) ∧
      ∀ others, others.take 4 = [7, 42, 16934] →
        plan.decode ⟨2, 4⟩ others = plan.decode ⟨2, 4⟩ [7, 42, 16934] := by
  obtain ⟨plan, planned⟩ : ∃ plan, build lineTree {} = .ok plan := ⟨_, rfl⟩
  exact ⟨plan, planned, by decide, decode_delivered planned (by decide) _⟩

end ScanPlan
end PlcMonitor
