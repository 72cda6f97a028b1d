import PlcMonitor.Proofs.Device.Known
import PlcMonitor.Proofs.Poll.Polled
import PlcMonitor.Proofs.Scan.Holders

/-! How often a cycle decodes each tag: once for every block that holds it and delivers words that
can be decoded. -/
namespace PlcMonitor

namespace BlockRead

def Delivered (read : BlockRead) : Prop :=
  ∃ words, read.outcome = .ok words ∧ words.length = read.block.count.toNat

def wordsOf? (read : BlockRead) (tag : TagSpec) : Option (List UInt16) :=
  if read.block.contains tag.span then
    match read.outcome with
    | .ok words =>
      some ((words.drop (tag.span.first.toNat - read.block.first.toNat)).take tag.span.count.toNat)
    | .error _ => none
  else none

def reading? (read : BlockRead) (tag : TagSpec) : Option Reading :=
  match read.outcome with
  | .ok words => ScanPlan.decodeTag read.block words tag
  | .error _ => none

theorem reading?_of_not_contains {read : BlockRead} {tag : TagSpec}
    (outside : ¬read.block.contains tag.span = true) : read.reading? tag = none := by
  unfold reading? ScanPlan.decodeTag
  cases read.outcome with
  | error fault => rfl
  | ok words => simp [outside]

theorem wordsOf?_of_not_contains {read : BlockRead} {tag : TagSpec}
    (outside : ¬read.block.contains tag.span = true) : read.wordsOf? tag = none :=
  if_neg outside

theorem Delivered.wordsOf?_eq {read : BlockRead} (delivered : read.Delivered)
    (nonempty : 1 ≤ read.block.count) {tag : TagSpec} (placed : tag.span.Placed)
    (inside : read.block.contains tag.span = true) :
    ∃ words, read.wordsOf? tag = some words ∧ words.length = tag.span.count.toNat ∧
      read.reading? tag = tag.decode words := by
  obtain ⟨words, outcome, length⟩ := delivered
  have some : 1 ≤ read.block.count.toNat := UInt16.le_iff_toNat_le.mp nonempty
  have pos := placed.pos
  have within := (Span.contains_iff _ _).mp inside
  unfold Span.last at within
  refine ⟨_, by rw [wordsOf?, if_pos inside, outcome], ?_, ?_⟩
  · rw [List.length_take, List.length_drop]
    omega
  · unfold reading? ScanPlan.decodeTag
    rw [outcome]
    simp only [inside, Bool.true_and, decide_eq_true_eq]
    exact if_pos (by omega)

theorem Delivered.bind_wordsOf? {read : BlockRead} (delivered : read.Delivered)
    (nonempty : 1 ≤ read.block.count) {tag : TagSpec} (placed : tag.span.Placed) :
    (read.wordsOf? tag).bind tag.decode = read.reading? tag := by
  by_cases inside : read.block.contains tag.span = true
  · obtain ⟨words, own, -, reading⟩ := delivered.wordsOf?_eq nonempty placed inside
    rw [own, reading, Option.bind_some]
  · rw [wordsOf?_of_not_contains inside, reading?_of_not_contains inside, Option.bind_none]

end BlockRead

theorem TagSpec.isSome_decode_of_single {tag : TagSpec}
    (registers : tag.span.count = tag.type.registers) (single : tag.span.count = 1)
    {words : List UInt16} (enough : words.length = tag.span.count.toNat) :
    (tag.decode words).isSome = true := by
  have one : tag.span.count.toNat = 1 := congrArg UInt16.toNat single
  obtain ⟨word, rfl⟩ := List.length_eq_one_iff.mp (enough.trans one)
  unfold decode decodeValue
  rw [if_neg (by simp [one]), Option.isSome_map]
  cases type : tag.type with
  | integer | digital => rfl
  | real =>
    rw [single, type] at registers
    exact absurd registers (by decide)

namespace Cycle

/-- The readings of a tag in the order in which its blocks were read. -/
def readingsOf (reads : List BlockRead) (tag : TagSpec) : List Reading :=
  reads.filterMap (·.reading? tag)

/-- Some block delivers words of the tag that can be decoded. -/
def decodable (reads : List BlockRead) (tag : TagSpec) : Bool :=
  reads.any fun read => ((read.wordsOf? tag).bind tag.decode).isSome

theorem flatMap_filterMap_perm {α β γ : Type} (f : α → β → Option γ) (as : List α) (bs : List β) :
    (as.flatMap fun a => bs.filterMap (f a)).Perm (bs.flatMap fun b => as.filterMap (f · b)) := by
  simp only [List.filterMap_eq_flatMap_toList]
  induction as with
  | nil => simp
  | cons a rest ih =>
    simp only [List.flatMap_cons]
    exact (ih.append_left _).trans (List.flatMap_append_perm _ _ _)

/-- Decoding block by block gives what decoding tag by tag gives. -/
theorem decodeAll_perm (plan : ScanPlan) (reads : List BlockRead) :
    (decodeAll plan reads).Perm
      (plan.tags.flatMap fun tag => (readingsOf reads tag).map fun reading => (tag, reading)) := by
  have blockwise : decodeAll plan reads = reads.flatMap fun read => plan.tags.filterMap fun tag =>
      (read.reading? tag).map fun reading => (tag, reading) := by
    refine congrArg (fun f => reads.flatMap f) (funext fun read => ?_)
    unfold BlockRead.reading?
    cases read.outcome with
    | error fault => simp
    | ok words => rfl
  rw [blockwise]
  simp only [readingsOf, List.map_filterMap]
  exact flatMap_filterMap_perm _ reads plan.tags

theorem readingsOf_eq (reads : List BlockRead) (tag : TagSpec) :
    readingsOf reads tag =
      (reads.filter (·.block.contains tag.span)).filterMap (·.reading? tag) := by
  rw [List.filterMap_filter]
  apply List.filterMap_congr
  intro read _
  split
  · rfl
  · rename_i outside
    exact BlockRead.reading?_of_not_contains outside

/-- All words of all blocks were delivered, and no block is empty. -/
structure Complete (reads : List BlockRead) : Prop where
  delivered : ∀ read ∈ reads, read.Delivered
  nonempty : ∀ read ∈ reads, 1 ≤ read.block.count

section Tag
variable {reads : List BlockRead} (complete : Complete reads) {tag : TagSpec} (built : tag.Built)
include complete built

theorem decodable_iff : decodable reads tag = true ↔ readingsOf reads tag ≠ [] := by
  rw [decodable, List.any_eq_true, readingsOf, ne_eq, List.filterMap_eq_nil_iff]
  simp only [not_forall, exists_prop, ← ne_eq, ← Option.isSome_iff_ne_none]
  apply exists_congr
  intro read
  apply and_congr_right
  intro hread
  rw [(complete.delivered read hread).bind_wordsOf? (complete.nonempty read hread) built.placed.1]

theorem length_readingsOf {seam : Prop} [Decidable seam]
    (holders : (reads.filter (·.block.contains tag.span)).length = if seam then 2 else 1)
    (single : seam → tag.span.count = 1) :
    (readingsOf reads tag).length = if seam then 2 else if decodable reads tag then 1 else 0 := by
  obtain ⟨placed, registers⟩ := built.placed
  by_cases h : seam
  · rw [if_pos h] at holders ⊢
    rw [readingsOf_eq, ← holders]
    apply List.filterMap_length_eq_length.mpr
    intro read hread
    obtain ⟨hread, inside⟩ := List.mem_filter.mp hread
    obtain ⟨words, -, length, reading⟩ := (complete.delivered read hread).wordsOf?_eq
      (complete.nonempty read hread) placed inside
    rw [reading]
    exact TagSpec.isSome_decode_of_single registers (single h) length
  · rw [if_neg h] at holders ⊢
    obtain ⟨only, holders⟩ := List.length_eq_one_iff.mp holders
    simp only [decodable_iff complete built, readingsOf_eq, holders]
    cases reading : only.reading? tag <;> simp [reading]

end Tag

/-- The readings of a cycle by tag, and how many there are of each and of all. -/
structure Tally (plan : ScanPlan) (reads : List BlockRead) : Prop where
  decoded : (decodeAll plan reads).Perm
    (plan.tags.flatMap fun tag => (readingsOf reads tag).map fun reading => (tag, reading))
  each : ∀ tag ∈ plan.tags, (readingsOf reads tag).length =
    if tag.span.OnSeam plan.blocks then 2 else if decodable reads tag then 1 else 0
  total : (decodeAll plan reads).length =
    plan.tags.countP (decodable reads) + plan.tags.countP (·.span.OnSeam plan.blocks)

theorem sum_eq_countP_add_countP {α : Type} {count : α → Nat} {p q : α → Bool} {items : List α}
    (each : ∀ a ∈ items, count a = if q a then 2 else if p a then 1 else 0)
    (sub : ∀ a ∈ items, q a = true → p a = true) :
    (items.map count).sum = items.countP p + items.countP q := by
  induction items with
  | nil => rfl
  | cons a rest ih =>
    obtain ⟨own, each⟩ := List.forall_mem_cons.mp each
    obtain ⟨implies, sub⟩ := List.forall_mem_cons.mp sub
    rw [List.map_cons, List.sum_cons, ih each sub, own, List.countP_cons, List.countP_cons]
    cases hq : q a with
    | true =>
      rw [implies hq]
      simp +arith
    | false =>
      cases p a <;> simp +arith

theorem Complete.tally {plan : ScanPlan} {reads : List BlockRead} (complete : Complete reads)
    (blocks : reads.map (·.block) = plan.blocks) (built : ∀ tag ∈ plan.tags, tag.Built)
    (holders : ∀ tag ∈ plan.tags, (plan.blocks.filter (·.contains tag.span)).length =
      if tag.span.OnSeam plan.blocks then 2 else 1) :
    Tally plan reads := by
  have each : ∀ tag ∈ plan.tags, (readingsOf reads tag).length =
      if tag.span.OnSeam plan.blocks then 2 else if decodable reads tag then 1 else 0 := by
    intro tag htag
    refine length_readingsOf complete (built tag htag) ?_ fun seam => seam.1
    rw [← holders tag htag, ← blocks, List.filter_map, List.length_map]
    rfl
  refine ⟨decodeAll_perm plan reads, each, ?_⟩
  rw [(decodeAll_perm plan reads).length_eq, List.length_flatMap]
  simp only [List.length_map]
  apply sum_eq_countP_add_countP
  · simpa using each
  · intro tag htag seam
    rw [decodable_iff complete (built tag htag), ne_eq, ← List.length_eq_zero_iff, each tag htag,
      if_pos (of_decide_eq_true seam)]
    decide

theorem readBlocks_delivered {τ σ : Type} (wires : Transport τ) (device : String)
    (blocks : List Span) (plant : Plant τ σ)
    (succeeds : ∀ read ∈ (readBlocks (Plant.readBlock wires device) blocks plant).1,
      read.outcome.isOk = true) :
    ∀ read ∈ (readBlocks (Plant.readBlock wires device) blocks plant).1, read.Delivered := by
  have made := readBlocks_calls (Plant.readBlock wires device) blocks plant
  have lengths := (made.keeps (fun _ => True) (fun block outcome =>
    ∀ words, outcome = .ok words → words.length = block.count.toNat) trivial
    fun _ _ plant _ => ⟨fun words => Fleet.length_of_readBlock_eq_ok, trivial⟩).1
  intro read hread
  have ok := succeeds read hread
  cases outcome : read.outcome with
  | error fault =>
    rw [outcome] at ok
    cases ok
  | ok words => exact ⟨words, outcome, lengths _ (List.mem_map_of_mem hread) words outcome⟩

end Cycle

open PlcMonitor.Cycle

/-- Every tag is in one block, or in the two that meet in its register, where a real begins. A cycle
in which no block fails decodes, publishes and counts a tag once if its words can be decoded, and a
tag in two blocks twice. -/
theorem Poller.poll_tally {tags : List TagSpec} (built : ∀ tag ∈ tags, tag.Built)
    {maxSize : UInt16} (maxGap : UInt16) (large : minBlockSize ≤ maxSize) :
    ∃ plan, ScanPlan.ofTags tags maxSize maxGap = .ok plan ∧ plan.tags = tags ∧
      (∀ tag ∈ tags, (plan.blocks.filter (·.contains tag.span)).length =
        if tag.span.OnSeam plan.blocks then 2 else 1) ∧
      (∀ tag ∈ tags, tag.span.OnSeam plan.blocks →
        ∃ real ∈ tags, real.type = .real ∧ real.span.first = tag.span.first) ∧
      ∀ {τ σ : Type} (wires : Transport τ) (alarms : AlarmStore σ) (clocks : Clocks)
        (now : Instant) (poller : Poller) (plant : Plant τ σ),
        let reads := (readBlocks (Plant.readBlock wires poller.device) plan.blocks plant).1
        let cycle := { poller with plan }.poll wires alarms clocks now plant
        cycle.1.blocksFailed = 0 → Tally plan reads ∧
          cycle.2.2.bus.signals =
            plant.bus.signals.insertAll (published poller.device (decodeAll plan reads)) ∧
          cycle.1.readings = (decodeAll plan reads).length := by
  have before := coveringRuns_before built maxGap large
  have nonempty := coveringRuns_nonempty built maxGap large
  have planned : ScanPlan.ofTags tags maxSize maxGap = .ok ⟨tags, _⟩ :=
    congrArg (Except.map (ScanPlan.mk tags)) (coveringBlocks_eq tags maxGap large)
  have held : ∀ tag ∈ tags, ∃ block ∈ (coveringRuns tags maxSize maxGap).map
      fun run => run.block.toSpan, block.contains tag.span = true := by
    intro tag htag
    obtain ⟨run, hrun, inside, -⟩ := ScanPlan.exists_block_contains built maxGap large htag
    exact ⟨_, List.mem_map_of_mem hrun, inside⟩
  generalize (coveringRuns tags maxSize maxGap).map (fun run => run.block.toSpan) = blocks
    at before nonempty planned held
  have holders : ∀ tag ∈ tags, (blocks.filter (·.contains tag.span)).length =
      if tag.span.OnSeam blocks then 2 else 1 := fun tag htag =>
    Span.length_holders (built tag htag).placed.1 before nonempty (held tag htag)
  refine ⟨⟨tags, blocks⟩, planned, rfl, holders, fun tag _ seam => seam.real before, ?_⟩
  intro τ σ wires alarms clocks now poller plant reads cycle complete
  have inOrder : reads.map (·.block) = blocks :=
    map_block_readBlocks (Plant.readBlock wires poller.device) blocks plant
  have succeeds : ∀ read ∈ reads, read.outcome.isOk = true := by
    have none : reads.countP (!·.outcome.isOk) = 0 := complete
    simpa using List.countP_eq_zero.mp none
  have delivered := readBlocks_delivered wires poller.device blocks plant succeeds
  have whole : Complete reads := by
    refine ⟨delivered, fun read hread => ?_⟩
    exact nonempty read.block (inOrder ▸ List.mem_map_of_mem hread)
  refine ⟨whole.tally inOrder built holders, ?_, rfl⟩
  rw [bus_poll wires alarms clocks now { poller with plan := _ } plant, signals_publishAll]

def crowdedPoller : Poller where
  device := "press"
  plan := ⟨crowdedTags, [⟨1, 2⟩, ⟨2, 2⟩]⟩
  rules := []
  intervalMs := 1000

def crowdedPlant : Plant BankWire MemoryStore where
  fleet := {
    links := Table.empty.insert "press"
      { settings := { name := "press", host := "10.0.0.7" }, wire := {} } }
  store := {}

theorem crowdedTags_tally :
    (crowdedPoller.poll bankTransport memoryStore Zone.clocks ⟨0, 0⟩ crowdedPlant).1 =
        { blocksOk := 2, readings := 4 } ∧
    ∃ plan, ScanPlan.ofTags crowdedTags 2 0 = .ok plan ∧ plan.tags = crowdedTags ∧
      (∀ tag ∈ crowdedTags, (plan.blocks.filter (·.contains tag.span)).length =
        if tag.span.OnSeam plan.blocks then 2 else 1) ∧
      (∀ tag ∈ crowdedTags, tag.span.OnSeam plan.blocks →
        ∃ real ∈ crowdedTags, real.type = .real ∧ real.span.first = tag.span.first) ∧
      ∀ {τ σ : Type} (wires : Transport τ) (alarms : AlarmStore σ) (clocks : Clocks)
        (now : Instant) (poller : Poller) (plant : Plant τ σ),
        let reads := (readBlocks (Plant.readBlock wires poller.device) plan.blocks plant).1
        let cycle := { poller with plan }.poll wires alarms clocks now plant
        cycle.1.blocksFailed = 0 → Tally plan reads ∧
          cycle.2.2.bus.signals =
            plant.bus.signals.insertAll (published poller.device (decodeAll plan reads)) ∧
          cycle.1.readings = (decodeAll plan reads).length :=
  ⟨by decide +kernel, Poller.poll_tally crowdedTags_built 0 (by decide)⟩

/-- Not every tag is in one block only: the speed lies in the last register of the first block,
where the flow begins. -/
theorem crowdedTags_not_in_one_block :
    ¬∀ (tags : List TagSpec) (maxSize maxGap : UInt16), (∀ tag ∈ tags, tag.Built) →
      minBlockSize ≤ maxSize → ∃ blocks, coveringBlocks tags maxSize maxGap = .ok blocks ∧
        ∀ tag ∈ tags, (blocks.filter (·.contains tag.span)).length = 1 := by
  intro claimed
  obtain ⟨blocks, covering, single⟩ := claimed crowdedTags 2 0 crowdedTags_built (by decide)
  cases (show coveringBlocks crowdedTags 2 0 = .ok [⟨1, 2⟩, ⟨2, 2⟩] by rfl).symm.trans covering
  revert single
  decide

end PlcMonitor
