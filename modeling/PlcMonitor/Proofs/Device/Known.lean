import PlcMonitor.Proofs.Device.BitWrite
import PlcMonitor.Proofs.Device.Uses

/-! Devices that a fleet is made for stay known whatever is done with the fleet. A block read from a
known device, with arguments in order, either brings as many words as were asked for or fails for
the connection's sake. -/
namespace PlcMonitor
variable {τ α : Type}

namespace Fleet

def Knows (fleet : Fleet τ) (device : String) : Prop :=
  (fleet.links.get? device).isSome = true

theorem Knows.insert {fleet : Fleet τ} {device : String} (known : fleet.Knows device)
    (user : String) (link : Link τ) (clock : Nat) :
    Knows ⟨fleet.links.insert user link, clock⟩ device := by
  unfold Knows
  rw [Table.get?_insert]
  split
  · rfl
  · exact known

theorem Follows.knows {wires : Transport τ} {changes : τ → τ → Prop} {fleet next : Fleet τ}
    (h : Follows wires changes fleet next) {device : String} (known : fleet.Knows device) :
    next.Knows device := by
  have steps := h device
  unfold Knows at known ⊢
  generalize fleet.links.get? device = before at known steps
  generalize next.links.get? device = after at steps ⊢
  cases steps with
  | some steps => rfl
  | none => exact known

section Keeping
variable {fleet : Fleet τ} {device : String} (known : fleet.Knows device)
include known

theorem Knows.perform (wires : Transport τ) (user : String) (operation : Operation) :
    (fleet.perform wires user operation).2.Knows device :=
  (performAt_follows wires (fun _ _ => True) fleet user operation fleet.clock).knows known

theorem Knows.useAll (wires : Transport τ) (uses : List (Use τ)) :
    (fleet.useAll wires uses).Knows device := by
  have any : ∀ use ∈ uses, use.Changes fun _ _ => True := by
    intro use _
    cases use <;> simp [Use.Changes]
  exact (useAll_follows wires fleet any).knows known

end Keeping

theorem add_knows (wire : DeviceSettings → τ) {fleet : Fleet τ} {devices : List DeviceSettings}
    (distinct : (devices.map (·.name)).Nodup)
    (fresh : ∀ settings ∈ devices, fleet.links.get? settings.name = none) :
    ∃ full, add wire fleet devices = .ok full ∧
      (∀ device, fleet.Knows device → full.Knows device) ∧
      ∀ settings ∈ devices, full.Knows settings.name := by
  induction devices generalizing fleet with
  | nil => exact ⟨fleet, rfl, fun _ known => known, List.forall_mem_nil _⟩
  | cons settings rest ih =>
    obtain ⟨apart, distinct⟩ := List.nodup_cons.mp distinct
    obtain ⟨free, fresh⟩ := List.forall_mem_cons.mp fresh
    let link : Link τ := { settings, wire := wire settings }
    obtain ⟨full, made, older, newer⟩ :=
      @ih { fleet with links := fleet.links.insert settings.name link } distinct
        fun other hother => by
          have ne : other.name ≠ settings.name := fun same =>
            apart (List.mem_map.mpr ⟨other, hother, same⟩)
          exact (Table.get?_insert_of_ne _ _ ne).trans (fresh other hother)
    refine ⟨full, ?_, fun device known => older device (known.insert _ link _),
      List.forall_mem_cons.mpr ⟨older _ ?_, newer⟩⟩
    · rw [add, Table.contains, free]
      exact made
    · unfold Knows
      rw [Table.get?_insert_self]
      rfl

theorem ofDevices_knows (wire : DeviceSettings → τ) {devices : List DeviceSettings}
    (distinct : (devices.map (·.name)).Nodup) :
    ∃ fleet, ofDevices wire devices = .ok fleet ∧
      ∀ settings ∈ devices, fleet.Knows settings.name := by
  obtain ⟨fleet, made, -, known⟩ := @add_knows _ wire {} devices distinct fun _ _ => rfl
  exact ⟨fleet, made, known⟩

end Fleet

/-- What a block read comes to when its arguments are in order and its device is known. -/
def Answered (count : UInt16) : Except DeviceFault (List UInt16) → Prop
  | .ok words => words.length = count.toNat
  | .error fault => ∃ device cause, fault = .connect device cause ∨ fault = .request device cause

theorem Link.readWords_answered (wires : Transport τ) (address count : UInt16) (link : Link τ) :
    Answered count (link.readWords wires address count).1 := by
  obtain ⟨calls, asks⟩ :=
    execute_asks link.recorded_settings wires (.read link.settings.unit address count)
  have same := (Operation.readBlock address count).perform_eq_recorded wires link
  have series : Series link.settings (.read link.settings.unit address count)
      link.settings.attempts (link.readWords wires address count).1 calls := by
    rw [show link.readWords wires address count = _ from same]
    exact asks.series
  generalize (link.readWords wires address count).1 = outcome at series ⊢
  match outcome, series with
  | .ok words, .answered vain fewer accepted => exact WireRequest.length_of_accept accepted
  | .error fault, series =>
    obtain ⟨cause, told⟩ := series.told
    exact ⟨_, cause, told⟩

theorem Fleet.readBlock_answered (wires : Transport τ) {fleet : Fleet τ} {device : String}
    (known : fleet.Knows device) {address count : UInt16}
    (checked : (Operation.readBlock address count).check = .ok ()) :
    Answered count (fleet.perform wires device (.readBlock address count)).1 := by
  obtain ⟨link, found⟩ := Option.isSome_iff_exists.mp known
  rw [(perform_known wires found checked).1]
  exact Link.readWords_answered wires address count _

theorem Fleet.length_of_readBlock_eq_ok {wires : Transport τ} {fleet : Fleet τ} {device : String}
    {address count : UInt16} {words : List UInt16}
    (read : (fleet.perform wires device (.readBlock address count)).1 = .ok words) :
    words.length = count.toNat := by
  have checked : (Operation.readBlock address count).check = .ok () := by
    cases checked : (Operation.readBlock address count).check with
    | ok done => rfl
    | error cause =>
      unfold perform performAt at read
      rw [checked] at read
      cases read
  have known : fleet.Knows device := by
    refine Option.isSome_iff_ne_none.mpr fun unknown => ?_
    unfold perform performAt useLink at read
    rw [checked, unknown] at read
    cases read
  have answered := readBlock_answered wires known checked
  rw [read] at answered
  exact answered

end PlcMonitor
