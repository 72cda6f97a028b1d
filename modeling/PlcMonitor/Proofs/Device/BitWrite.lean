import PlcMonitor.Proofs.Device.Bit
import PlcMonitor.Proofs.Device.Series

/-! Writing one bit of a register: a read, a write of the word with the bit changed, and a read to
see whether the device took it. -/
namespace PlcMonitor
variable {τ : Type}

namespace Operation

/-- The calls that an operation makes on the connection of a link, as a record of them shows. -/
def calls (wires : Transport τ) (operation : Operation) (link : Link τ) : List WireEvent :=
  (operation.perform wires.recorded link.recorded).2.wire.log

theorem perform_eq_recorded (wires : Transport τ) (operation : Operation) (link : Link τ) :
    operation.perform wires link =
      ((operation.perform wires.recorded link.recorded).1,
        (operation.perform wires.recorded link.recorded).2.map Recorded.wire) :=
  perform_map wires.recorded_projects operation link.recorded

end Operation

namespace DeviceSettings

abbrev Reads (settings : DeviceSettings) (address : UInt16)
    (outcome : Except DeviceFault (List UInt16)) (calls : List WireEvent) : Prop :=
  Series settings (.read settings.unit address 1) settings.attempts outcome calls

abbrev Writes (settings : DeviceSettings) (address value : UInt16)
    (outcome : Except DeviceFault Unit) (calls : List WireEvent) : Prop :=
  Series settings (.write settings.unit address value) settings.attempts outcome calls

/-- A read that brought one word. -/
abbrev brought (settings : DeviceSettings) (address word : UInt16) : Success :=
  ⟨.read settings.unit address 1, [word]⟩

/-- A write that was acknowledged. -/
abbrev taken (settings : DeviceSettings) (address word : UInt16) : Success :=
  ⟨.write settings.unit address word, ()⟩

end DeviceSettings

/-- The series of calls of one bit write: what it comes back with, which requests have succeeded
and the health it leaves. -/
inductive BitWriteRun (settings : DeviceSettings) (address : UInt16) (bit value : UInt8) :
    (verify : Bool) → Except DeviceFault Unit → List Success → List WireEvent → Health → Prop where
  | unread {verify : Bool} {fault : DeviceFault} {reading : List WireEvent} {health : Health} :
    settings.Reads address (.error fault) reading →
    BitWriteRun settings address bit value verify (.error fault) [] reading health
  | unwritten {verify : Bool} {word : UInt16} {fault : DeviceFault}
    {reading writing : List WireEvent} {health : Health} :
    settings.Reads address (.ok [word]) reading →
    settings.Writes address (Operation.withBit word bit value) (.error fault) writing →
    BitWriteRun settings address bit value verify (.error fault) [settings.brought address word]
      (reading ++ writing) health
  | trusted {word : UInt16} {reading writing : List WireEvent} {health : Health} :
    settings.Reads address (.ok [word]) reading →
    settings.Writes address (Operation.withBit word bit value) (.ok ()) writing →
    BitWriteRun settings address bit value false (.ok ())
      [settings.brought address word, settings.taken address (Operation.withBit word bit value)]
      (reading ++ writing) health
  | unconfirmed {word : UInt16} {fault : DeviceFault} {reading writing checking : List WireEvent}
    {health : Health} :
    settings.Reads address (.ok [word]) reading →
    settings.Writes address (Operation.withBit word bit value) (.ok ()) writing →
    settings.Reads address (.error fault) checking →
    BitWriteRun settings address bit value true (.error fault)
      [settings.brought address word, settings.taken address (Operation.withBit word bit value)]
      (reading ++ writing ++ checking) health
  | confirmed {word seen : UInt16} {reading writing checking : List WireEvent} {health : Health} :
    settings.Reads address (.ok [word]) reading →
    settings.Writes address (Operation.withBit word bit value) (.ok ()) writing →
    settings.Reads address (.ok [seen]) checking →
    Operation.testBit seen bit = decide (value = 1) →
    BitWriteRun settings address bit value true (.ok ())
      [settings.brought address word, settings.taken address (Operation.withBit word bit value),
        settings.brought address seen]
      (reading ++ writing ++ checking) health
  | mismatched {word seen : UInt16} {reading writing checking : List WireEvent}
    {health : Health} :
    settings.Reads address (.ok [word]) reading →
    settings.Writes address (Operation.withBit word bit value) (.ok ()) writing →
    settings.Reads address (.ok [seen]) checking →
    Operation.testBit seen bit ≠ decide (value = 1) → health.Clear →
    BitWriteRun settings address bit value true
      (.error (.mismatch settings.name address bit value (1 - value)))
      [settings.brought address word, settings.taken address (Operation.withBit word bit value),
        settings.brought address seen]
      (reading ++ writing ++ checking) health

theorem Operation.writeBitOn_run (wires : Transport τ) (address : UInt16) (bit : UInt8)
    {value : UInt8} (isBit : value ≤ 1) (verify : Bool) (link : Link (Recorded τ)) :
    let after := writeBitOn wires.recorded address bit value verify link
    ∃ calls progress, link.Leads calls after.2 ∧
      BitWriteRun link.settings address bit value verify after.1 progress calls after.2.health := by
  unfold writeBitOn
  -- Reading the word.
  obtain ⟨reading, read⟩ := Link.readWord_asks rfl wires address
  generalize link.readWord wires.recorded address = result at read ⊢
  obtain ⟨fault | word, link₁⟩ := result
  · exact ⟨reading, _, read.leads, .unread read.series⟩
  -- Writing it back with the bit changed.
  obtain ⟨writing, write⟩ :=
    Link.writeWord_asks read.leads.settings wires address (withBit word bit value)
  dsimp only
  generalize link₁.writeWord wires.recorded address (withBit word bit value) = result at write ⊢
  have through := read.leads.trans write.leads
  obtain ⟨fault | done, link₂⟩ := result
  · exact ⟨reading ++ writing, _, through, .unwritten read.series write.series⟩
  cases verify with
  | false => exact ⟨reading ++ writing, _, through, .trusted read.series write.series⟩
  | true =>
    -- Reading it once more.
    obtain ⟨checking, check⟩ := Link.readWord_asks through.settings wires address
    dsimp only [Bool.not_true]
    generalize link₂.readWord wires.recorded address = result at check ⊢
    have all := through.trans check.leads
    obtain ⟨fault | seen, link₃⟩ := result
    · exact ⟨_, _, all, .unconfirmed read.series write.series check.series⟩
    by_cases same : testBit seen bit = decide (value = 1)
    · simp only [(digit_eq_iff isBit _).mpr same, ↓reduceIte]
      exact ⟨_, _, all, .confirmed read.series write.series check.series same⟩
    · have shown := digit_of_ne isBit same
      have differs : 1 - value ≠ value := fun h => same ((digit_eq_iff isBit _).mp (shown.trans h))
      have own : link₃.name = link.settings.name := congrArg DeviceSettings.name all.settings
      simp only [shown, differs, own, Bool.not_true, Bool.false_eq_true, ↓reduceIte]
      exact ⟨_, _, all, .mismatched read.series write.series check.series same (check.clear _ rfl)⟩

/-- A bit that was written read back as the other value. -/
def Mismatched (outcome : Except DeviceFault Unit) : Prop :=
  ∃ device address bit expected actual,
    outcome = .error (.mismatch device address bit expected actual)

/-- What a bit write asks of a device, what it comes back with and the health it leaves. -/
structure BitWriteContract (settings : DeviceSettings) (address : UInt16) (bit value : UInt8)
    (verify : Bool) (outcome : Except DeviceFault Unit) (calls : List WireEvent)
    (health : Health) : Prop where
  /-- A write is asked for only after the register has been read, and nothing else has succeeded
  by then. It carries the word that was read, with nothing but the bit changed. -/
  guarded : ∀ {before after : List WireEvent} {unit : UInt8} {register written : UInt16}
    {reply : Reply Unit}, calls = before ++ .asked (.write unit register written) reply :: after →
    unit = settings.unit ∧ register = address ∧
      ∃ word, successes before = [settings.brought address word] ∧ SetsBit bit value word written
  staged : ∃ word written seen, SetsBit bit value word written ∧
    successes calls <+: [settings.brought address word, settings.taken address written,
      settings.brought address seen]
  /-- Without a word the fault of the last attempt to read one is told. -/
  unread : successes calls = [] →
    ∃ fault, outcome = .error fault ∧ settings.Reads address (.error fault) calls
  /-- Without an acknowledged write the fault of the last attempt to write is told. -/
  unwritten : ∀ {word : UInt16}, successes calls = [settings.brought address word] →
    ∃ fault reading written writing, outcome = .error fault ∧ calls = reading ++ writing ∧
      settings.Reads address (.ok [word]) reading ∧
      settings.Writes address written (.error fault) writing
  unverified : verify = false →
    (outcome = .ok () ↔ ∃ written, settings.taken address written ∈ successes calls)
  /-- To verify a write is to read the register after it, and to see the bit there. -/
  verified : verify = true →
    (outcome = .ok () ↔ ∃ word written seen,
      successes calls = [settings.brought address word, settings.taken address written,
        settings.brought address seen] ∧
      seen.toNat.testBit bit.toNat = decide (value = 1))
  /-- Without a word read back the fault of the last attempt to read one is told. -/
  unconfirmed : ∀ {word written : UInt16}, verify = true →
    successes calls = [settings.brought address word, settings.taken address written] →
    ∃ fault earlier checking, outcome = .error fault ∧ calls = earlier ++ checking ∧
      settings.Reads address (.error fault) checking
  mismatched : Mismatched outcome ↔ verify = true ∧ ∃ word written seen,
    successes calls = [settings.brought address word, settings.taken address written,
      settings.brought address seen] ∧
    seen.toNat.testBit bit.toNat ≠ decide (value = 1)
  /-- The word that shows a mismatch is the last thing asked for, and no failure of the device. -/
  final : Mismatched outcome →
    outcome = .error (.mismatch settings.name address bit value (1 - value)) ∧
    (∃ earlier seen, calls = earlier ++ [.asked (.read settings.unit address 1)
      (some (.ok [seen]))]) ∧
    health.Clear

theorem split_after {first second before after : List WireEvent} {event : WireEvent}
    (absent : event ∉ first) (h : first ++ second = before ++ event :: after) :
    ∃ middle, before = first ++ middle ∧ second = middle ++ event :: after := by
  rcases List.append_eq_append_iff.mp h with ⟨middle, rfl, rfl⟩ | ⟨extra, rfl, tail⟩
  · exact ⟨middle, rfl, rfl⟩
  · cases extra with
    | nil => exact ⟨[], by simp, by simpa using tail.symm⟩
    | cons head rest =>
      obtain ⟨rfl, -⟩ := List.cons.inj tail
      exact absurd (List.mem_append_right _ List.mem_cons_self) absent

theorem split_before {first second before after : List WireEvent} {event : WireEvent}
    (absent : event ∉ second) (h : first ++ second = before ++ event :: after) :
    ∃ middle, first = before ++ event :: middle := by
  rcases List.append_eq_append_iff.mp h with ⟨middle, rfl, rfl⟩ | ⟨extra, rfl, tail⟩
  · simp at absent
  · cases extra with
    | nil =>
      obtain rfl : event :: after = second := tail
      exact absurd List.mem_cons_self absent
    | cons head rest =>
      obtain ⟨rfl, -⟩ := List.cons.inj tail
      exact ⟨rest, rfl⟩

section Parts
variable {settings : DeviceSettings} {address register written : UInt16} {bit value unit : UInt8}
  {reading writing before after : List WireEvent} {reply : Reply Unit}

theorem DeviceSettings.Reads.no_write {outcome : Except DeviceFault (List UInt16)}
    (h : settings.Reads address outcome reading) :
    WireEvent.asked (.write unit register written) reply ∉ reading := fun hm =>
  WireRequest.noConfusion (h.requests _ (mem_requests hm))

theorem DeviceSettings.Writes.progress {outcome : Except DeviceFault Unit}
    (h : settings.Writes address written outcome writing) :
    successes writing <+: [settings.taken address written] := by
  cases outcome with
  | error fault => simp [h.successes_of_error]
  | ok done => simp [h.successes_of_ok]

theorem DeviceSettings.Writes.guarded {word : UInt16} {outcome : Except DeviceFault Unit}
    (inWord : bit ≤ 15) (read : settings.Reads address (.ok [word]) reading)
    (write : settings.Writes address (Operation.withBit word bit value) outcome writing)
    (h : reading ++ writing = before ++ .asked (.write unit register written) reply :: after) :
    unit = settings.unit ∧ register = address ∧
      ∃ word, successes before = [settings.brought address word] ∧
        SetsBit bit value word written := by
  obtain ⟨middle, rfl, rfl⟩ := split_after read.no_write h
  have asked : WireEvent.asked (.write unit register written) reply ∈
      middle ++ .asked (.write unit register written) reply :: after :=
    List.mem_append_right _ List.mem_cons_self
  obtain ⟨rfl, rfl, rfl⟩ := WireRequest.write.inj (write.requests _ (mem_requests asked))
  refine ⟨rfl, rfl, word, ?_, Operation.setsBit_withBit inWord value word⟩
  rw [successes_append, read.successes_of_ok, write.successes_before, List.append_nil]

end Parts

theorem Series.not_mismatched {settings : DeviceSettings} {request : WireRequest} {attempts : Nat}
    {fault : DeviceFault} {calls : List WireEvent}
    (h : Series settings request attempts (.error fault) calls) : ¬Mismatched (.error fault) := by
  rintro ⟨device, address, bit, expected, actual, told⟩
  obtain rfl := Except.error.inj told
  obtain ⟨cause, told | told⟩ := h.told <;> cases told

section Run
variable {settings : DeviceSettings} {address : UInt16} {bit value : UInt8} {verify : Bool}
  {outcome : Except DeviceFault Unit} {progress : List Success} {calls : List WireEvent}
  {health : Health}
  (h : BitWriteRun settings address bit value verify outcome progress calls health)
include h

theorem BitWriteRun.successes : successes calls = progress := by
  cases h with
  | unread read => exact read.successes_of_error
  | unwritten read write =>
    rw [successes_append, read.successes_of_ok, write.successes_of_error, List.append_nil]
  | trusted read write =>
    rw [successes_append, read.successes_of_ok, write.successes_of_ok]
    rfl
  | unconfirmed read write check =>
    rw [successes_append, successes_append, read.successes_of_ok, write.successes_of_ok,
      check.successes_of_error]
    rfl
  | confirmed read write check | mismatched read write check =>
    rw [successes_append, successes_append, read.successes_of_ok, write.successes_of_ok,
      check.successes_of_ok]
    rfl

theorem BitWriteRun.guarded (inWord : bit ≤ 15) {before after : List WireEvent} {unit : UInt8}
    {register written : UInt16} {reply : Reply Unit}
    (made : calls = before ++ .asked (.write unit register written) reply :: after) :
    unit = settings.unit ∧ register = address ∧
      ∃ word, PlcMonitor.successes before = [settings.brought address word] ∧
        SetsBit bit value word written := by
  cases h with
  | unread read => exact absurd (made ▸ List.mem_append_cons_self) read.no_write
  | unwritten read write | trusted read write => exact write.guarded inWord read made
  | unconfirmed read write check | confirmed read write check | mismatched read write check =>
    obtain ⟨middle, made⟩ := split_before check.no_write made
    exact write.guarded inWord read made

theorem BitWriteRun.contract (inWord : bit ≤ 15) :
    BitWriteContract settings address bit value verify outcome calls health where
  guarded := h.guarded inWord
  staged := by
    rw [h.successes]
    have sets (word : UInt16) := Operation.setsBit_withBit inWord value word
    cases h with
    | unread => exact ⟨0, _, 0, sets 0, List.nil_prefix⟩
    | @unwritten _ word => exact ⟨word, _, 0, sets word, List.prefix_append [_] [_, _]⟩
    | @trusted word | @unconfirmed word =>
      exact ⟨word, _, 0, sets word, List.prefix_append [_, _] [_]⟩
    | @confirmed word seen | @mismatched word seen =>
      exact ⟨word, _, seen, sets word, List.prefix_rfl⟩
  unread none := by
    rw [h.successes] at none
    cases h with
    | unread read => exact ⟨_, rfl, read⟩
    | unwritten | trusted | unconfirmed | confirmed | mismatched => cases none
  unwritten {word} one := by
    rw [h.successes] at one
    cases h with
    | unwritten read write =>
      obtain rfl : _ = word := by simpa using one
      exact ⟨_, _, _, _, rfl, rfl, read, write⟩
    | unread | trusted | unconfirmed | confirmed | mismatched => simp at one
  unverified trusting := by
    rw [h.successes]
    cases h with
    | unread | unwritten | trusted => simp
    | unconfirmed | confirmed | mismatched => cases trusting
  verified checking := by
    rw [h.successes]
    cases h with
    | trusted => cases checking
    | unread | unwritten | unconfirmed => simp
    | confirmed read write check same =>
      rw [Operation.testBit_eq inWord] at same
      simp [same]
    | mismatched read write check other =>
      rw [Operation.testBit_eq inWord] at other
      simp [other]
  unconfirmed {word written} checking two := by
    rw [h.successes] at two
    cases h with
    | unconfirmed read write check => exact ⟨_, _, _, rfl, rfl, check⟩
    | trusted => cases checking
    | unread | unwritten | confirmed | mismatched => simp at two
  mismatched := by
    rw [h.successes]
    cases h with
    | unread failed | unwritten _ failed | unconfirmed _ _ failed => simp [failed.not_mismatched]
    | trusted => simp [Mismatched]
    | confirmed read write check same =>
      rw [Operation.testBit_eq inWord] at same
      simp [Mismatched, same]
    | mismatched read write check other =>
      rw [Operation.testBit_eq inWord] at other
      simp [Mismatched, other]
  final told := by
    cases h with
    | unread failed | unwritten _ failed | unconfirmed _ _ failed =>
      exact absurd told failed.not_mismatched
    | trusted | confirmed => simp [Mismatched] at told
    | mismatched read write check other clear =>
      obtain ⟨vain, rfl⟩ := check.last_of_ok
      exact ⟨rfl, ⟨_, _, (List.append_assoc ..).symm⟩, clear⟩

end Run

namespace Operation

theorem writeBit_contract (wires : Transport τ) (address : UInt16) {bit value : UInt8}
    (verify : Bool) (link : Link τ) (inWord : bit ≤ 15) (isBit : value ≤ 1) :
    let operation := Operation.writeBit address bit value verify
    BitWriteContract link.settings address bit value verify (operation.perform wires link).1
      (operation.calls wires link) (operation.perform wires link).2.health := by
  intro operation
  obtain ⟨made, progress, leads, run⟩ :=
    writeBitOn_run wires address bit isBit verify link.recorded
  have log : operation.calls wires link = made := leads.log
  rw [operation.perform_eq_recorded wires link, log]
  exact run.contract inWord

theorem check_writeBit {address : UInt16} {bit value : UInt8} {verify : Bool} :
    (writeBit address bit value verify).check = .ok () ↔ bit ≤ 15 ∧ value ≤ 1 := by
  have place : maxBit < bit.toNat ↔ ¬bit ≤ 15 := by
    rw [UInt8.le_iff_toNat_le, Nat.not_le]
    rfl
  simp only [check, checkBit, place, ite_not]
  by_cases inWord : bit ≤ 15 <;> by_cases isBit : value ≤ 1 <;>
    simp [inWord, isBit, UInt8.not_lt]

end Operation

namespace Fleet

/-- An operation on a known device, with arguments that are in order, is one on its link. -/
theorem perform_known (wires : Transport τ) {fleet : Fleet τ} {device : String} {link : Link τ}
    (known : fleet.links.get? device = some link) {operation : Operation}
    (checked : operation.check = .ok ()) :
    (fleet.perform wires device operation).1 =
        (operation.perform wires { link with clock := fleet.clock }).1 ∧
      (fleet.perform wires device operation).2.links.get? device =
        some (operation.perform wires { link with clock := fleet.clock }).2 := by
  simp [perform, performAt, useLink, checked, known]

/-- The protocol of a bit write, for whatever the device does. -/
theorem perform_writeBit_contract (wires : Transport τ) (fleet : Fleet τ) {device : String}
    {link : Link τ} (known : fleet.links.get? device = some link) (address : UInt16)
    {bit value : UInt8} (inWord : bit ≤ 15) (isBit : value ≤ 1) (verify : Bool) :
    let operation := Operation.writeBit address bit value verify
    let after := fleet.perform wires device operation
    ∃ health, after.2.health device = some health ∧
      BitWriteContract link.settings address bit value verify after.1
        (operation.calls wires { link with clock := fleet.clock }) health := by
  intro operation after
  have checked : operation.check = .ok () := Operation.check_writeBit.mpr ⟨inWord, isBit⟩
  obtain ⟨outcome, left⟩ := perform_known wires known checked
  refine ⟨(operation.perform wires { link with clock := fleet.clock }).2.health, ?_, ?_⟩
  · exact congrArg (Option.map (·.health)) left
  · rw [show after.1 = _ from outcome]
    exact Operation.writeBit_contract wires address verify { link with clock := fleet.clock }
      inWord isBit

/-- A device that acknowledges writes and does not take them. -/
def deafLink : Link BankWire where
  settings := { name := "press", host := "10.0.0.7" }
  wire := { bank := { faults := { ignoreWrites := true } } }

def deafFleet : Fleet BankWire where
  links := Table.empty.insert "press" deafLink

theorem perform_deafFleet_contract :
    (deafFleet.perform bankTransport "press" (.writeBit 7 3 1 true)).1 =
        .error (.mismatch "press" 7 3 1 0) ∧
      deafFleet.links.get? "press" = some deafLink ∧ (3 : UInt8) ≤ 15 ∧ (1 : UInt8) ≤ 1 ∧
      ∃ health, (deafFleet.perform bankTransport "press" (.writeBit 7 3 1 true)).2.health "press" =
        some health ∧
      BitWriteContract deafLink.settings 7 3 1 true
        (deafFleet.perform bankTransport "press" (.writeBit 7 3 1 true)).1
        ((Operation.writeBit 7 3 1 true).calls bankTransport deafLink) health := by
  have known : deafFleet.links.get? "press" = some deafLink := by
    simp [deafFleet]
  exact ⟨by rfl, known, by decide, by decide,
    perform_writeBit_contract bankTransport deafFleet known 7 (by decide) (by decide) true⟩

end Fleet
end PlcMonitor
