import PlcMonitor.Proofs.Device.Bit
import PlcMonitor.Proofs.Tag.Spec
import PlcMonitor.Scan.Plan

/-! Decoding in machine words, where a sum or difference that leaves its width, an index behind the
end and a shift past the last bit each stop the run. None of them happens to tags that are built
from definitions. -/
namespace PlcMonitor

inductive Crash where
  | overflow
  | outOfRange
  | wideShift
deriving DecidableEq, Repr

namespace ScanPlan

theorem decodeTag_of_contains {block : Span} {tag : TagSpec}
    (inside : block.contains tag.span = true) (words : List UInt16) :
    decodeTag block words tag =
      if tag.span.first.toNat - block.first.toNat + tag.span.count.toNat ≤ words.length then
        tag.decode ((words.drop (tag.span.first.toNat - block.first.toNat)).take
          tag.span.count.toNat)
      else none := by
  simp [decodeTag, inside]

theorem decodeTag_of_not_contains {block : Span} {tag : TagSpec}
    (outside : block.contains tag.span = false) (words : List UInt16) :
    decodeTag block words tag = none := by
  simp [decodeTag, outside]

end ScanPlan

namespace Guarded

def sum (a b : UInt32) : Except Crash UInt32 :=
  if UInt32.size ≤ a.toNat + b.toNat then .error .overflow else .ok (a + b)

def difference {α : Type} [LT α] [DecidableLT α] [Sub α] (a b : α) : Except Crash α :=
  if a < b then .error .overflow else .ok (a - b)

def word (words : List UInt16) (index : Nat) : Except Crash UInt16 :=
  match words[index]? with
  | some word => .ok word
  | none => .error .outOfRange

def front (words : List UInt16) (count : Nat) : Except Crash (List UInt16) :=
  if words.length < count then .error .outOfRange else .ok (words.take count)

def testBit (word : UInt16) (bit : UInt8) : Except Crash Bool :=
  if 16 ≤ bit then .error .wideShift else .ok (Operation.testBit word bit)

def last (span : Span) : Except Crash UInt32 := do
  difference (← sum span.first.toUInt32 span.count.toUInt32) 1

/-- The ends are compared only if the beginnings allow. -/
def contains (outer inner : Span) : Except Crash Bool := do
  if inner.first < outer.first then return false
  return decide ((← last inner) ≤ (← last outer))

def states (spec : TagSpec) (own : UInt16) : Except Crash (List (String × Bool)) :=
  spec.bits.entries.mapM fun entry => return (entry.2, ← testBit own (UInt8.ofNat entry.1.val))

def decodeValue (spec : TagSpec) (words : List UInt16) : Except Crash (Option Value) := do
  match spec.type with
  | .integer => return some (spec.decodeInteger (← word words 0))
  | .real => return spec.decodeReal (← word words 0) (← word words 1)
  | .digital => return some (.bits (Table.ofList (← states spec (← word words 0))))

def decodeWords (spec : TagSpec) (words : List UInt16) : Except Crash (Option Reading) := do
  if words.length < spec.span.count.toNat then return none
  match ← decodeValue spec words with
  | none => return none
  | some value => return some ⟨value, ← front words spec.span.count.toNat⟩

def decodeTag (block : Span) (words : List UInt16) (tag : TagSpec) :
    Except Crash (Option (TagSpec × Reading)) := do
  if !(← contains block tag.span) then return none
  let offset ← difference tag.span.first block.first
  if words.length < offset.toNat + tag.span.count.toNat then return none
  let reading ← decodeWords tag ((words.drop offset.toNat).take tag.span.count.toNat)
  return reading.map fun reading => (tag, reading)

def decode (plan : ScanPlan) (block : Span) (words : List UInt16) :
    Except Crash (List (TagSpec × Reading)) := do
  return (← plan.tags.mapM (decodeTag block words)).filterMap id

theorem last_eq {span : Span} (nonempty : 0 < span.count.toNat) :
    ∃ register, last span = .ok register ∧ register.toNat = span.last := by
  have := span.first.toNat_lt
  have := span.count.toNat_lt
  have total : (span.first.toUInt32 + span.count.toUInt32).toNat =
      span.first.toNat + span.count.toNat := by
    rw [UInt32.toNat_add, UInt16.toNat_toUInt32, UInt16.toNat_toUInt32]
    omega
  have fits : ¬UInt32.size ≤ span.first.toUInt32.toNat + span.count.toUInt32.toNat := by
    simp only [UInt16.toNat_toUInt32, UInt32.size]
    omega
  have enough : ¬span.first.toUInt32 + span.count.toUInt32 < 1 := by
    rw [UInt32.lt_iff_toNat_lt, total, UInt32.toNat_one]
    omega
  refine ⟨span.first.toUInt32 + span.count.toUInt32 - 1, ?_, ?_⟩
  · unfold last sum
    rw [if_neg fits]
    exact if_neg enough
  · rw [UInt32.toNat_sub_of_le _ _ (UInt32.not_lt.mp enough), total]
    rfl

/-- A span without registers at the beginning of all has no last one. -/
example : last ⟨0, 0⟩ = .error .overflow := rfl

theorem contains_eq {outer inner : Span} (nonempty : 0 < outer.count.toNat)
    (nonempty' : 0 < inner.count.toNat) : contains outer inner = .ok (outer.contains inner) := by
  obtain ⟨here, hhere, here_eq⟩ := last_eq nonempty'
  obtain ⟨there, hthere, there_eq⟩ := last_eq nonempty
  unfold contains Span.contains
  split
  · rename_i before
    rw [decide_eq_false (UInt16.not_le.mpr before)]
    rfl
  · rename_i within
    rw [decide_eq_true (UInt16.not_lt.mp within), hhere, hthere, ← here_eq, ← there_eq]
    simp only [← UInt32.le_iff_toNat_le]
    rfl

theorem testBit_eq (own : UInt16) (bit : Fin 16) :
    testBit own (UInt8.ofNat bit.val) = .ok (PlcMonitor.testBit own bit) := by
  have place : (UInt8.ofNat bit.val).toNat = bit.val :=
    UInt8.toNat_ofNat_of_lt (Nat.lt_trans bit.isLt (by decide))
  have inWord : UInt8.ofNat bit.val ≤ 15 := by
    rw [UInt8.le_iff_toNat_le, place]
    exact Nat.le_of_lt_succ bit.isLt
  have narrow : ¬16 ≤ UInt8.ofNat bit.val := by
    rw [UInt8.le_iff_toNat_le, place]
    exact Nat.not_le_of_lt bit.isLt
  rw [testBit, if_neg narrow, Operation.testBit_eq inWord, place]
  rfl

theorem states_eq (spec : TagSpec) (own : UInt16) :
    states spec own =
      .ok (spec.bits.entries.map fun entry => (entry.2, PlcMonitor.testBit own entry.1)) := by
  refine mapM_eq_ok fun entry _ => ?_
  rw [testBit_eq]
  rfl

theorem decodeValue_eq {spec : TagSpec} {words : List UInt16}
    (enough : spec.type.registers.toNat ≤ words.length) :
    decodeValue spec words = .ok (spec.decodeValue words) := by
  unfold decodeValue TagSpec.decodeValue
  cases type : spec.type with
  | integer =>
    rw [type] at enough
    obtain ⟨own, rest, rfl⟩ := List.exists_cons_of_length_pos enough
    rfl
  | real =>
    rw [type] at enough
    match words, enough with
    | high :: low :: rest, _ => rfl
  | digital =>
    rw [type] at enough
    obtain ⟨own, rest, rfl⟩ := List.exists_cons_of_length_pos enough
    change (states spec own >>= fun states => .ok (some (Value.bits (Table.ofList states)))) = _
    rw [states_eq]
    rfl

theorem decodeWords_eq {spec : TagSpec} (registers : spec.span.count = spec.type.registers)
    (words : List UInt16) : decodeWords spec words = .ok (spec.decode words) := by
  unfold decodeWords TagSpec.decode
  split
  · rfl
  · rename_i enough
    rw [decodeValue_eq (by rw [← registers]; omega)]
    cases spec.decodeValue words with
    | none => rfl
    | some value =>
      simp only [front, if_neg enough]
      rfl

theorem decodeTag_eq {block : Span} (nonempty : 0 < block.count.toNat) {tag : TagSpec}
    (built : tag.Built) (words : List UInt16) :
    decodeTag block words tag =
      .ok ((ScanPlan.decodeTag block words tag).map fun reading => (tag, reading)) := by
  obtain ⟨placed, registers⟩ := built.placed
  unfold decodeTag
  rw [contains_eq nonempty placed.pos]
  cases inside : block.contains tag.span with
  | false =>
    rw [ScanPlan.decodeTag_of_not_contains inside]
    rfl
  | true =>
    have begins := ((Span.contains_iff block tag.span).mp inside).1
    have inOrder : ¬tag.span.first < block.first := by
      rw [UInt16.lt_iff_toNat_lt]
      omega
    rw [ScanPlan.decodeTag_of_contains inside, difference, if_neg inOrder]
    change (if words.length < (tag.span.first - block.first).toNat + tag.span.count.toNat then
      Except.ok none else _) = _
    rw [UInt16.toNat_sub_of_le _ _ (UInt16.not_lt.mp inOrder)]
    split
    · rename_i short
      rw [if_neg (Nat.not_le_of_lt short)]
      rfl
    · rename_i delivered
      rw [if_pos (Nat.le_of_not_lt delivered), decodeWords_eq registers]
      rfl

theorem decode_eq {block : Span} (nonempty : 0 < block.count.toNat) {plan : ScanPlan}
    (built : ∀ tag ∈ plan.tags, tag.Built) (words : List UInt16) :
    decode plan block words = .ok (plan.decode block words) := by
  unfold decode ScanPlan.decode
  rw [mapM_eq_ok fun tag htag => decodeTag_eq nonempty (built tag htag) words]
  change Except.ok _ = _
  rw [List.filterMap_map]
  rfl

end Guarded
end PlcMonitor
