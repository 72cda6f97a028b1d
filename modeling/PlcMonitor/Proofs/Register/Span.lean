import PlcMonitor.Proofs.Except
import PlcMonitor.Register.Address

/-! Registers of spans, and the words read from them. -/
namespace PlcMonitor

namespace Span

def Holds (span : Span) (register : Nat) : Prop :=
  span.first.toNat ≤ register ∧ register < span.first.toNat + span.count.toNat

/-- At least one register, and none past the last one there is. -/
structure Placed (span : Span) : Prop where
  pos : 0 < span.count.toNat
  end_le : span.first.toNat + span.count.toNat ≤ registerCount

theorem contains_iff (outer inner : Span) :
    outer.contains inner = true ↔
      outer.first.toNat ≤ inner.first.toNat ∧ inner.last ≤ outer.last := by
  simp [contains, UInt16.le_iff_toNat_le]

theorem getElem_words (span : Span) (memory : UInt16 → UInt16) (i : Nat)
    (h : i < (span.words memory).length) :
    (span.words memory)[i] = memory (span.first + UInt16.ofNat i) := by
  simp [words]

theorem first_add_offset {outer inner : Span} (h : outer.first.toNat ≤ inner.first.toNat) :
    outer.first + UInt16.ofNat (inner.first.toNat - outer.first.toNat) = inner.first := by
  have fits : inner.first.toNat < 65536 := inner.first.toNat_lt
  apply UInt16.toNat.inj
  rw [UInt16.toNat_add, UInt16.toNat_ofNat']
  omega

theorem words_slice {outer inner : Span} (memory : UInt16 → UInt16)
    (inside : outer.first.toNat ≤ inner.first.toNat)
    (fits : inner.first.toNat - outer.first.toNat + inner.count.toNat ≤ outer.count.toNat) :
    ((outer.words memory).drop (inner.first.toNat - outer.first.toNat)).take inner.count.toNat =
      inner.words memory := by
  apply List.ext_getElem
  · simp only [List.length_take, List.length_drop, length_words]
    omega
  · intro i _ _
    rw [List.getElem_take, List.getElem_drop, getElem_words, getElem_words, UInt16.ofNat_add,
      ← UInt16.add_assoc, first_add_offset inside]

end Span

theorem readSpan_ok {address : UInt32} {type : DataType} {span : Span}
    (h : readSpan address type = .ok span) :
    ∃ first, first + type.registers.toNat ≤ registerCount ∧
      span = ⟨first.toUInt16, type.registers⟩ := by
  obtain ⟨base, -, h⟩ := bind_eq_ok.mp h
  cases type <;> dsimp only at h <;> split at h
  all_goals first | cases h; exact ⟨_, ‹_›, rfl⟩ | cases h

theorem readSpan_placed {address : UInt32} {type : DataType} {span : Span}
    (h : readSpan address type = .ok span) : span.Placed ∧ span.count = type.registers := by
  obtain ⟨first, fits, rfl⟩ := readSpan_ok h
  have first_le : first.toUInt16.toNat ≤ first := Nat.mod_le first _
  exact ⟨⟨UInt16.lt_iff_toNat_lt.mp type.registers_pos, by dsimp only; omega⟩, rfl⟩

end PlcMonitor
