import PlcMonitor.Proofs.Device.BitWrite
import PlcMonitor.Proofs.Wire.Registers

/-! What an operation does to the registers of a device with a memory: all that it should if its
write is acknowledged, and nothing otherwise. -/
namespace PlcMonitor
variable {τ : Type}

/-- A write is among the requests that succeeded. -/
def Acknowledged (progress : List Success) : Prop :=
  ∃ unit address value, (⟨.write unit address value, ()⟩ : Success) ∈ progress

def OnlyReads (progress : List Success) : Prop :=
  ∀ success ∈ progress, ∃ unit address count, success.1 = .read unit address count

theorem words_one (memory : Memory) (address : UInt16) :
    (Span.mk address 1).words memory = [memory address] := by
  simp [Span.words]

/-- Reads change nothing. -/
theorem OnlyReads.replay {progress : List Success} (reads : OnlyReads progress)
    (memory : Memory) : replay memory progress = memory := by
  induction progress with
  | nil => rfl
  | cons success rest ih =>
    obtain ⟨⟨unit, address, count, same⟩, others⟩ := List.forall_mem_cons.mp reads
    obtain ⟨request, answer⟩ := success
    obtain rfl : request = .read unit address count := same
    exact ih others

theorem OnlyReads.not_acknowledged {progress : List Success} (reads : OnlyReads progress) :
    ¬Acknowledged progress := by
  rintro ⟨unit, address, value, hm⟩
  obtain ⟨unit, address, count, same⟩ := reads _ hm
  cases same

namespace Operation

/-- What an operation makes of the registers when its write is acknowledged. -/
def Leaves (before after : Memory) : Operation → Prop
  | .writeRegister address value => after = RegisterBank.setWord before address value
  | .writeBit address bit value _ =>
    SetsBit bit value (before address) (after address) ∧
      ∀ other, other ≠ address → after other = before other
  | .readBlock .. | .readRegister _ | .readBit .. => after = before

/-- The requests of an operation that can succeed, in their order. -/
def Progress (settings : DeviceSettings) (progress : List Success) : Operation → Prop
  | .writeRegister address value => progress <+: [settings.taken address value]
  | .writeBit address bit value _ =>
    ∃ word written seen, SetsBit bit value word written ∧
      progress <+: [settings.brought address word, settings.taken address written,
        settings.brought address seen]
  | .readBlock .. | .readRegister _ | .readBit .. => OnlyReads progress

theorem readWord_progress (wires : Transport τ) (address : UInt16) (link : Link τ) :
    OnlyReads (successes
      (Link.readWord wires.recorded address link.recorded).2.wire.log) := by
  intro success hm
  obtain ⟨made, asks⟩ := Link.readWord_asks link.recorded_settings wires address
  rw [asks.leads.log] at hm
  exact ⟨_, _, _, asks.series.mem_successes hm⟩

theorem calls_progress (wires : Transport τ) {operation : Operation}
    (checked : operation.check = .ok ()) (link : Link τ) :
    operation.Progress link.settings (successes (operation.calls wires link)) := by
  cases operation with
  | readBlock address count =>
    intro success hm
    obtain ⟨made, asks⟩ := Link.execute_asks link.recorded_settings wires
      (.read link.settings.unit address count)
    rw [show calls wires (.readBlock address count) link = made from asks.leads.log] at hm
    exact ⟨_, _, _, asks.series.mem_successes hm⟩
  | readRegister address => exact readWord_progress wires address link
  | readBit address bit =>
    have reads := readWord_progress wires address link
    unfold Progress calls
    simp only [perform]
    generalize Link.readWord wires.recorded address _ = result at reads ⊢
    obtain ⟨_ | _, after⟩ := result <;> exact reads
  | writeRegister address value =>
    obtain ⟨made, asks⟩ := Link.writeWord_asks link.recorded_settings wires address value
    rw [show calls wires (.writeRegister address value) link = made from asks.leads.log]
    exact DeviceSettings.Writes.progress asks.series
  | writeBit address bit value verify =>
    obtain ⟨inWord, isBit⟩ := check_writeBit.mp checked
    exact (writeBit_contract wires address verify link inWord isBit).staged

theorem writeRegister_ok_iff (wires : Transport τ) (address value : UInt16) (link : Link τ) :
    (perform wires (.writeRegister address value) link).1 = .ok () ↔
      Acknowledged (successes (calls wires (.writeRegister address value) link)) := by
  obtain ⟨made, asks⟩ := Link.writeWord_asks link.recorded_settings wires address value
  rw [perform_eq_recorded, show calls wires (.writeRegister address value) link = made from
    asks.leads.log]
  simp only [perform]
  generalize Link.writeWord wires.recorded address value _ = result at asks ⊢
  obtain ⟨fault | done, after⟩ := result
  · have none : successes made = [] := asks.series.successes_of_error
    simp [none, Acknowledged]
  · have one : successes made = [link.settings.taken address value] := asks.series.successes_of_ok
    simp [one, Acknowledged]

/-- An operation whose write is acknowledged does what it should, and any other does nothing. -/
theorem Progress.leaves {settings : DeviceSettings} {progress : List Success}
    {operation : Operation} (h : operation.Progress settings progress) {before : Memory}
    (truthful : Truthful before progress) :
    Acknowledged progress ∧ operation.Leaves before (replay before progress) ∨
      ¬Acknowledged progress ∧ replay before progress = before := by
  cases operation with
  | readBlock | readRegister | readBit =>
    exact .inr ⟨OnlyReads.not_acknowledged h, OnlyReads.replay h before⟩
  | writeRegister address value =>
    rcases List.prefix_cons_iff.mp h with rfl | ⟨rest, rfl, none⟩
    · exact .inr ⟨by simp [Acknowledged], rfl⟩
    · obtain rfl := List.prefix_nil.mp none
      exact .inl ⟨⟨_, _, _, List.mem_singleton.mpr rfl⟩, rfl⟩
  | writeBit address bit value verify =>
    obtain ⟨word, written, seen, sets, h⟩ := h
    rcases List.prefix_cons_iff.mp h with rfl | ⟨_, rfl, later⟩
    · exact .inr ⟨by simp [Acknowledged], rfl⟩
    rcases List.prefix_cons_iff.mp later with rfl | ⟨rest, rfl, last⟩
    · exact .inr ⟨by simp [Acknowledged], rfl⟩
    left
    have reads : OnlyReads rest := by
      intro success hm
      obtain rfl := List.mem_singleton.mp (last.subset hm)
      exact ⟨_, _, _, rfl⟩
    have shown : [word] = (Span.mk address 1).words before := truthful.1
    have same : word = before address := by simpa [words_one] using shown
    have after : replay before (settings.brought address word ::
        settings.taken address written :: rest) = RegisterBank.setWord before address written :=
      reads.replay _
    rw [after]
    refine ⟨⟨_, _, _, List.mem_cons_of_mem _ List.mem_cons_self⟩, ?_, ?_⟩
    · rw [RegisterBank.setWord_self, ← same]
      exact sets
    · intro other away
      exact RegisterBank.setWord_of_ne before written away

/-- An operation finds the memory as it is and leaves it so, but for what it acknowledges. -/
theorem perform_leaves {wires : Transport τ} {memory : τ → Memory} {sane : τ → Prop}
    (h : wires.IsMemory memory sane) {operation : Operation} (checked : operation.check = .ok ())
    {link : Link τ} (start : sane link.wire) :
    let after := memory (operation.perform wires link).2.wire
    let progress := successes (operation.calls wires link)
    sane (operation.perform wires link).2.wire ∧
      (Acknowledged progress ∧ operation.Leaves (memory link.wire) after ∨
        ¬Acknowledged progress ∧ after = memory link.wire) := by
  intro after progress
  have kept : Kept memory sane (memory link.wire)
      (operation.perform wires.recorded link.recorded).2.wire :=
    operation.perform_keeps (h.recorded_keeps (memory link.wire)) ⟨start, rfl, trivial⟩
  have ended : (operation.perform wires link).2.wire = _ :=
    congrArg (fun performed => performed.2.wire) (operation.perform_eq_recorded wires link)
  have replayed : after = replay (memory link.wire) progress := by
    rw [show after = memory _ from congrArg memory ended]
    exact kept.memory
  rw [ended, replayed]
  exact ⟨kept.sane, (calls_progress wires checked link).leaves kept.truthful⟩

end Operation
end PlcMonitor
