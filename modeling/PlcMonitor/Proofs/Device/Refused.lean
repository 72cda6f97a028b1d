import PlcMonitor.Proofs.Device.Known
import PlcMonitor.Proofs.Device.Retries

/-! Operations that are refused before anything is done: those whose arguments are out of order, and
then those for a device that nobody knows. All others reach their device, and what goes wrong there
is never put down to an argument or to the name. -/
namespace PlcMonitor
variable {τ α : Type}

namespace Operation

/-- A block of no registers, of too many, or with some past the last; a bit that no word has; a
value that no bit has. -/
def Misused : Operation → Prop
  | .readBlock address count =>
    count.toNat = 0 ∨ 125 < count.toNat ∨ 65535 < address.toNat + count.toNat - 1
  | .readBit _ bit => 15 < bit.toNat
  | .writeBit _ bit value _ => 15 < bit.toNat ∨ 1 < value.toNat
  | .readRegister _ | .writeRegister .. => False

theorem check_readBlock_eq_ok_iff {address count : UInt16} :
    (readBlock address count).check = .ok () ↔
      (count ≠ 0 ∧ count ≤ maxReadCount) ∧ address.toNat + count.toNat ≤ registerCount := by
  change (if count = 0 ∨ maxReadCount < count then _ else
    if registerCount < address.toNat + count.toNat then _ else _) = _ ↔ _
  by_cases bad : count = 0 ∨ maxReadCount < count
  · rw [if_pos bad]
    refine ⟨nofun, fun good => absurd bad ?_⟩
    exact not_or.mpr ⟨good.1.1, UInt16.not_lt.mpr good.1.2⟩
  · rw [if_neg bad]
    obtain ⟨some, few⟩ := not_or.mp bad
    by_cases beyond : registerCount < address.toNat + count.toNat
    · rw [if_pos beyond]
      exact ⟨nofun, fun good => absurd beyond (Nat.not_lt.mpr good.2)⟩
    · rw [if_neg beyond]
      exact ⟨fun _ => ⟨⟨some, UInt16.not_lt.mp few⟩, Nat.not_lt.mp beyond⟩, fun _ => rfl⟩

theorem check_eq_ok_iff {operation : Operation} :
    operation.check = .ok () ↔ ¬operation.Misused := by
  cases operation with
  | readBlock address count =>
    have most : maxReadCount.toNat = 125 := rfl
    rw [check_readBlock_eq_ok_iff, ne_eq, ← UInt16.toNat_inj, UInt16.le_iff_toNat_le, most,
      UInt16.toNat_zero]
    unfold Misused registerCount
    omega
  | readBit address bit =>
    change checkBit bit = _ ↔ ¬(15 < bit.toNat)
    unfold checkBit maxBit
    split <;> simp_all
  | writeBit address bit value verify =>
    rw [check_writeBit, UInt8.le_iff_toNat_le, UInt8.le_iff_toNat_le]
    change bit.toNat ≤ 15 ∧ value.toNat ≤ 1 ↔ ¬(15 < bit.toNat ∨ 1 < value.toNat)
    omega
  | readRegister | writeRegister => simp [Misused, check]

end Operation

/-- A fault that is found without asking the device. -/
def DeviceFault.isRefusal : DeviceFault → Bool
  | .unknown _ | .argument _ => true
  | .connect .. | .request .. | .noWord _ | .mismatch .. => false

/-- An operation that has come to this was not refused. -/
def Tried (outcome : Except DeviceFault α) : Prop :=
  ∀ fault, outcome = .error fault → fault.isRefusal = false

theorem tried_ok (answer : α) : Tried (.ok answer) := nofun

theorem tried_error {fault : DeviceFault} (met : fault.isRefusal = false) :
    Tried (.error fault : Except DeviceFault α) := by
  rintro _ ⟨⟩
  exact met

theorem Tried.of_error {β : Type} {fault : DeviceFault} (h : Tried (.error fault : Except _ α)) :
    Tried (.error fault : Except DeviceFault β) :=
  tried_error (h fault rfl)

theorem Attempt.tried {request : WireRequest} (device : String) (attempt : Attempt request) :
    Tried (attempt.result device) := by
  cases attempt with
  | unopened cause ms => exact tried_error rfl
  | asked opening outcome ms =>
    intro fault h
    obtain ⟨cause, -, rfl⟩ := mapError_eq_error.mp h
    rfl

namespace Link

theorem execute_tried (wires : Transport τ) (request : WireRequest) (link : Link τ) :
    Tried (execute wires (request.send wires) link).1 := by
  obtain ⟨trial, -, last, -⟩ :=
    attempts_trial wires request (link.settings.attempts - 1) 0 link
  rw [show (execute wires (request.send wires) link).1 = _ from last]
  exact trial.last.tried link.name

theorem readWord_tried (wires : Transport τ) (address : UInt16) (link : Link τ) :
    Tried (link.readWord wires address).1 := by
  have words : Tried (link.readWords wires address 1).1 :=
    execute_tried wires (.read link.settings.unit address 1) link
  unfold readWord
  generalize link.readWords wires address 1 = result at words ⊢
  obtain ⟨fault | _ | ⟨word, rest⟩, after⟩ := result
  · exact words.of_error
  · exact tried_error rfl
  · exact tried_ok word

theorem writeWord_tried (wires : Transport τ) (address value : UInt16) (link : Link τ) :
    Tried (link.writeWord wires address value).1 :=
  execute_tried wires (.write link.settings.unit address value) link

end Link

namespace Operation

theorem writeBitOn_tried (wires : Transport τ) (address : UInt16) (bit value : UInt8)
    (verify : Bool) (link : Link τ) : Tried (writeBitOn wires address bit value verify link).1 := by
  unfold writeBitOn
  have read := link.readWord_tried wires address
  generalize link.readWord wires address = first at read ⊢
  obtain ⟨fault | word, opened⟩ := first
  · exact read.of_error
  have written := opened.writeWord_tried wires address (withBit word bit value)
  dsimp only
  generalize opened.writeWord wires address (withBit word bit value) = second at written ⊢
  obtain ⟨fault | done, changed⟩ := second
  · exact written
  cases verify with
  | false => exact tried_ok ()
  | true =>
    have again := changed.readWord_tried wires address
    dsimp only
    generalize changed.readWord wires address = third at again ⊢
    obtain ⟨fault | word, seen⟩ := third
    · exact again.of_error
    · simp only [Bool.not_true, Bool.false_eq_true, if_false]
      generalize (if testBit word bit = true then (1 : UInt8) else 0) = actual
      split
      · exact tried_ok ()
      · apply tried_error
        rfl

theorem perform_tried (wires : Transport τ) (operation : Operation) (link : Link τ) :
    Tried (operation.perform wires link).1 := by
  cases operation with
  | readBlock address count =>
    exact link.execute_tried wires (.read link.settings.unit address count)
  | readRegister address => exact link.readWord_tried wires address
  | readBit address bit =>
    have read := link.readWord_tried wires address
    simp only [perform]
    generalize link.readWord wires address = result at read ⊢
    obtain ⟨fault | word, after⟩ := result
    · exact read.of_error
    · exact tried_ok _
  | writeRegister address value => exact link.writeWord_tried wires address value
  | writeBit address bit value verify => exact writeBitOn_tried wires address bit value verify link

end Operation

namespace Fleet
section Perform
variable (wires : Transport τ) (fleet : Fleet τ) (device : String) (now : Nat)

theorem performAt_misused {operation : Operation} (misused : operation.Misused) :
    ∃ cause, ∀ wires : Transport τ,
      fleet.performAt wires device operation now = (.error (.argument cause), now, fleet) := by
  cases checked : operation.check with
  | ok done => exact absurd misused (Operation.check_eq_ok_iff.mp checked)
  | error cause => exact ⟨cause, fun wires => by simp [performAt, checked]⟩

section Proper
variable {fleet device} {operation : Operation} (proper : ¬operation.Misused)
include proper

theorem performAt_unknown (unknown : fleet.links.get? device = none) :
    fleet.performAt wires device operation now = (.error (.unknown device), now, fleet) := by
  simp [performAt, useLink, Operation.check_eq_ok_iff.mpr proper, unknown]

theorem performAt_tried {link : Link τ} (known : fleet.links.get? device = some link) :
    Tried (fleet.performAt wires device operation now).1 := by
  simp only [performAt, useLink, Operation.check_eq_ok_iff.mpr proper, known]
  exact operation.perform_tried wires { link with clock := now }

end Proper

theorem performAt_readRegister (address : UInt16) :
    fleet.performAt wires device (.readRegister address) now =
      match fleet.performAt wires device (.readBlock address 1) now with
      | (.ok words, now, fleet) =>
        ((words.head?.map Except.ok).getD (.error (.noWord device)), now, fleet)
      | (.error fault, now, fleet) => (.error fault, now, fleet) := by
  have proper : (Operation.readBlock address 1).check = .ok () := by
    apply Operation.check_eq_ok_iff.mpr
    have := address.toNat_lt
    simp only [Operation.Misused, UInt16.toNat_one]
    omega
  have own : (Operation.readRegister address).check = .ok () := rfl
  simp only [performAt, useLink, proper, own]
  cases fleet.links.get? device with
  | none => rfl
  | some link =>
    have answered := Link.readWords_answered wires address 1 { link with clock := now }
    simp only [Operation.perform, Link.readWord]
    generalize Link.readWords wires address 1 { link with clock := now } = result at answered ⊢
    obtain ⟨fault | words, after⟩ := result
    · rfl
    · obtain ⟨word, rfl⟩ := List.length_eq_one_iff.mp answered
      rfl

theorem performAt_readBit (address : UInt16) {bit : UInt8} (inWord : bit.toNat ≤ 15) :
    fleet.performAt wires device (.readBit address bit) now =
      match fleet.performAt wires device (.readRegister address) now with
      | (.ok word, now, fleet) => (.ok (Operation.testBit word bit), now, fleet)
      | (.error fault, now, fleet) => (.error fault, now, fleet) := by
  have proper : (Operation.readBit address bit).check = .ok () :=
    Operation.check_eq_ok_iff.mpr (Nat.not_lt.mpr inWord)
  have own : (Operation.readRegister address).check = .ok () := rfl
  simp only [performAt, useLink, proper, own]
  cases fleet.links.get? device with
  | none => rfl
  | some link =>
    simp only [Operation.perform]
    generalize Link.readWord wires address { link with clock := now } = result
    obtain ⟨fault | word, after⟩ := result <;> rfl

/-- An operation is refused for its arguments just if they are out of order, whether or not the
device is known, and for the name of its device just if they are in order and the device is not
known. What is refused is refused alike on all transports: no call is made on a wire, no time
passes, and the fleet stays as it is. -/
theorem performAt_refused_iff (operation : Operation) :
    let outcome := (fleet.performAt wires device operation now).1
    ((∃ cause, outcome = .error (.argument cause)) ↔ operation.Misused) ∧
    ((∃ name, outcome = .error (.unknown name)) ↔
      ¬operation.Misused ∧ fleet.links.get? device = none) ∧
    (operation.Misused → ∃ cause, ∀ others : Transport τ,
      fleet.performAt others device operation now = (.error (.argument cause), now, fleet)) ∧
    (¬operation.Misused → fleet.links.get? device = none → ∀ others : Transport τ,
      fleet.performAt others device operation now = (.error (.unknown device), now, fleet)) := by
  intro outcome
  by_cases misused : operation.Misused
  · obtain ⟨cause, refused⟩ := performAt_misused fleet device now misused
    have told : outcome = .error (.argument cause) := congrArg Prod.fst (refused wires)
    refine ⟨iff_of_true ⟨cause, told⟩ misused, iff_of_false ?_ fun h => h.1 misused,
      fun _ => ⟨cause, refused⟩, fun proper => absurd misused proper⟩
    rintro ⟨name, unknown⟩
    cases told.symm.trans unknown
  cases known : fleet.links.get? device with
  | none =>
    have refused (others : Transport τ) := performAt_unknown others now misused known
    have told : outcome = .error (.unknown device) := congrArg Prod.fst (refused wires)
    refine ⟨iff_of_false ?_ misused, iff_of_true ⟨device, told⟩ ⟨misused, rfl⟩,
      fun h => absurd h misused, fun _ _ => refused⟩
    rintro ⟨cause, argument⟩
    cases told.symm.trans argument
  | some link =>
    have tried : Tried outcome := performAt_tried wires now misused known
    refine ⟨iff_of_false ?_ misused, iff_of_false ?_ nofun, fun h => absurd h misused, nofun⟩
    · rintro ⟨cause, argument⟩
      cases tried _ argument
    · rintro ⟨name, unknown⟩
      cases tried _ unknown

end Perform
end Fleet
end PlcMonitor
