import Mathlib.Data.List.DropRight
import PlcMonitor.Proofs.Device.Mirrored
import PlcMonitor.Proofs.Wire.Registers

/-! The health of a device is true: it says whether the connection is open, and counts what has
failed since a request last succeeded. -/
namespace PlcMonitor
variable {τ : Type}

/-- A connection that has been made is open until it is closed: no request opens or closes it. -/
structure Transport.Steady (wires : Transport τ) : Prop where
  connect : ∀ wire, (wires.connect wire).outcome = .ok () →
    wires.isOpen (wires.connect wire).finished = true
  close : ∀ wire, wires.isOpen (wires.close wire) = false
  send : ∀ (request : WireRequest) wire,
    wires.isOpen (request.send wires wire).started = wires.isOpen wire ∧
      wires.isOpen (request.send wires wire).finished = wires.isOpen wire

theorem Transport.Steady.recorded {wires : Transport τ} (h : wires.Steady) :
    wires.recorded.Steady where
  connect recorded := h.connect recorded.wire
  close recorded := h.close recorded.wire
  send
    | .read unit address count, recorded => h.send (.read unit address count) recorded.wire
    | .write unit address value, recorded => h.send (.write unit address value) recorded.wire

namespace BankWire

end BankWire

/-- The calls since a request last succeeded, or all of them if none has. -/
def sinceSuccess (calls : List WireEvent) : List WireEvent :=
  calls.rtakeWhile (·.success?.isNone)

theorem sinceSuccess_append {calls more : List WireEvent} (none : successes more = []) :
    sinceSuccess (calls ++ more) = sinceSuccess calls ++ more := by
  have idle : ∀ event ∈ more.reverse, event.success?.isNone = true := by
    intro event hevent
    have silent := List.filterMap_eq_nil_iff.mp none event (List.mem_reverse.mp hevent)
    rw [silent]
    rfl
  unfold sinceSuccess List.rtakeWhile
  rw [List.reverse_append, List.takeWhile_append_of_pos idle, List.reverse_append,
    List.reverse_reverse]

theorem sinceSuccess_concat {calls : List WireEvent} {event : WireEvent} {success : Success}
    (succeeds : event.success? = some success) : sinceSuccess (calls ++ [event]) = [] :=
  List.rtakeWhile_concat_neg _ _ _ (by simp [succeeds])

section Vain
variable {settings : DeviceSettings} {request : WireRequest} {found : List DeviceFault}
  {more : List WireEvent} (vain : Vain settings request found more) (calls : List WireEvent)
include vain

theorem Vain.faults_sinceSuccess : settings.faults (sinceSuccess (calls ++ more)) =
    settings.faults (sinceSuccess calls) ++ found := by
  rw [sinceSuccess_append vain.successes, DeviceSettings.faults, faults_append]
  exact congrArg (_ ++ ·) vain.faults

theorem Vain.successes_append :
    PlcMonitor.successes (calls ++ more) = PlcMonitor.successes calls := by
  rw [PlcMonitor.successes_append, vain.successes, List.append_nil]

end Vain

namespace Health

/-- Health agrees with the calls that have been made to a device. An attempt that fails makes just
one call that fails, and so does asking for a connection that cannot be made. -/
structure Counts (settings : DeviceSettings) (calls : List WireEvent) (health : Health) : Prop where
  failures : health.consecutiveFailures =
    min (settings.faults (sinceSuccess calls)).length mostFailures
  lastError : health.lastError.isSome = true ↔ 0 < health.consecutiveFailures
  lastErrorAt : health.lastErrorAt.isSome = true ↔ 0 < health.consecutiveFailures
  lastOkAt : health.lastOkAt.isSome = true ↔ successes calls ≠ []

section Counting
variable {settings : DeviceSettings} {calls more : List WireEvent} {health : Health}
  {request : WireRequest}

theorem Counts.idle (h : health.Counts settings calls) (vain : Vain settings request [] more)
    (connected : Bool) : Counts settings (calls ++ more) { health with connected } where
  failures := by
    rw [vain.faults_sinceSuccess, List.append_nil]
    exact h.failures
  lastError := h.lastError
  lastErrorAt := h.lastErrorAt
  lastOkAt := by
    rw [vain.successes_append]
    exact h.lastOkAt

theorem Counts.failed (h : health.Counts settings calls) {cause : DeviceFault}
    (vain : Vain settings request [cause] more) (connected : Bool) (fault : DeviceFault)
    (now : Nat) :
    (markError { health with connected } fault now).Counts settings (calls ++ more) := by
  have positive : 0 < (markError { health with connected } fault now).consecutiveFailures := by
    have : 0 < mostFailures := by decide
    simp only [markError]
    omega
  refine {
    failures := ?_
    lastError := iff_of_true rfl positive
    lastErrorAt := iff_of_true rfl positive
    lastOkAt := ?_ }
  · have := h.failures
    rw [vain.faults_sinceSuccess, List.length_append, List.length_singleton]
    simp only [markError]
    omega
  · rw [vain.successes_append]
    exact h.lastOkAt

theorem counts_markOk {event : WireEvent} {success : Success}
    (succeeds : event.success? = some success) (now : Nat) :
    (health.markOk now).Counts settings (calls ++ [event]) := by
  have since := @sinceSuccess_concat calls _ _ succeeds
  constructor <;>
    simp [markOk, since, DeviceSettings.faults, faults, successes, succeeds]

end Counting
end Health

namespace Link

section Open
variable {wires : Transport τ} (steady : wires.Steady) {link : Link τ}
  (told : link.health.connected = wires.isOpen link.wire)
include steady told

/-- Connecting tells whether the connection is open then, and health learns nothing else. -/
theorem connect_tells :
    let after := connect wires link
    (∃ connected, after.2.health = { link.health with connected }) ∧
    (after.1 = .ok () → after.2.health.connected = true ∧ wires.isOpen after.2.wire = true) ∧
    ∀ fault, after.1 = .error fault → wires.isOpen after.2.wire = false := by
  unfold connect
  split
  · rename_i isOpen
    exact ⟨⟨link.health.connected, rfl⟩, fun _ => ⟨told.trans isOpen, isOpen⟩, nofun⟩
  · rcases ended : (wires.connect link.wire).within link.limitMs with ⟨cause | done, wire, ms⟩ <;>
      simp only [limitMs_pause, ended]
    · refine ⟨⟨link.health.connected, ?_⟩, nofun, fun _ _ => steady.close wire⟩
      simp [close, wait]
    · obtain ⟨outcome, rfl⟩ := Exchange.outcome_of_within ended
      refine ⟨⟨true, ?_⟩, fun _ => ⟨trivial, steady.connect link.wire outcome⟩, by simp⟩
      simp

theorem attempt_tells (request : WireRequest) :
    let after := attempt wires (request.send wires) link
    (∃ connected, after.2.health = { link.health with connected }) ∧
    ∀ answer, after.1 = .ok answer → wires.isOpen after.2.wire = true := by
  obtain ⟨health, opened, -⟩ := connect_tells steady told
  unfold attempt
  generalize connect wires link = result at health opened ⊢
  rcases result with ⟨fault | done, next⟩
  · exact ⟨health, nofun⟩
  have isOpen := (opened rfl).2
  have stays : wires.isOpen ((request.send wires next.wire).within next.limitMs).2.1 = true :=
    @Exchange.within_keeps _ _ (wires.isOpen · = true) _ (isOpen ▸ steady.send request next.wire) _
  rcases ended : (request.send wires next.wire).within next.limitMs with
    ⟨cause | answer, wire, ms⟩ <;> simp only [limitMs_pause, ended] at stays ⊢
  · refine ⟨?_, nofun⟩
    simpa [wait] using health
  · refine ⟨?_, fun _ _ => stays⟩
    simpa [wait] using health

end Open

/-- The health of a link whose calls are recorded is true. -/
structure Sound (wires : Transport τ) (link : Link (Recorded τ)) : Prop where
  connected : link.health.connected = wires.isOpen link.wire.wire
  counts : link.health.Counts link.settings link.wire.log

theorem Sound.rest {wires : Transport τ} {link : Link (Recorded τ)} (sound : link.Sound wires)
    (pauses : Bool) (ms : Nat) : ((link.pause pauses).wait ms).Sound wires := by
  obtain ⟨connected, counts⟩ := sound
  constructor <;> simpa [wait]

section Sound
variable {wires : Transport τ} (steady : wires.Steady) {link ended : Link (Recorded τ)}
  (sound : link.Sound wires)
include steady sound

/-- After what has failed the connection is closed, and the failure counts. -/
theorem Sound.drop {request : WireRequest} {cause : DeviceFault} {calls : List WireEvent}
    (leads : link.Leads calls ended) (vain : Vain link.settings request [cause] calls)
    (health : ∃ connected, ended.health = { link.health with connected }) (fault : DeviceFault) :
    (close wires.recorded (ended.markError fault)).Sound wires := by
  obtain ⟨connected, health⟩ := health
  refine ⟨(steady.close ended.wire.wire).symm, ?_⟩
  have counted := sound.counts.failed (vain.append .close) connected fault ended.clock
  rw [← health, ← List.append_assoc, ← leads.log, ← leads.settings] at counted
  exact counted

theorem attempts_sound (request : WireRequest) (more number : Nat) :
    (attempts wires.recorded (request.send wires.recorded) more number link).2.Sound wires := by
  fun_induction attempts wires.recorded (request.send wires.recorded) more number link with
  | case1 more number link answer ended attempted =>
    obtain ⟨-, isOpen⟩ := attempt_tells steady.recorded sound.connected request
    obtain ⟨calls, leads, ends⟩ := attempt_recorded wires request link
    rw [attempted] at isOpen leads ends
    cases ends with
    | @succeeds vain _ quiet accepted =>
      have succeeds : (WireEvent.asked request (some (.ok answer))).success? =
          some ⟨request, answer⟩ := by simp [WireEvent.success?, accepted]
      refine ⟨(isOpen answer rfl).symm, ?_⟩
      have counted := @Health.counts_markOk link.settings (link.wire.log ++ vain) ended.health _ _
        succeeds ended.clock
      rw [List.append_assoc, ← leads.log, ← leads.settings] at counted
      exact counted
  | case2 number link fault ended attempted closed =>
    obtain ⟨health, -⟩ := attempt_tells steady.recorded sound.connected request
    obtain ⟨calls, leads, ends⟩ := attempt_recorded wires request link
    rw [attempted] at health leads ends
    cases ends with
    | fails vain => exact sound.drop steady leads vain health fault
  | case3 number link fault ended attempted closed more pause ih =>
    obtain ⟨health, -⟩ := attempt_tells steady.recorded sound.connected request
    obtain ⟨calls, leads, ends⟩ := attempt_recorded wires request link
    rw [attempted] at health leads ends
    cases ends with
    | fails vain => exact ih ((sound.drop steady leads vain health fault).rest _ _)

theorem perform_sound (operation : Operation) :
    (operation.perform wires.recorded link).2.Sound wires :=
  operation.perform_preserves (Sound wires)
    (fun request _ sound => attempts_sound steady sound request _ 0) sound

theorem ensureConnected_sound : (ensureConnected wires.recorded link).2.Sound wires := by
  obtain ⟨⟨connected, health⟩, opened, shut⟩ := connect_tells steady.recorded sound.connected
  obtain ⟨calls, leads, vain⟩ := connect_recorded wires (.read 0 0 0) link
  unfold ensureConnected
  generalize connect wires.recorded link = result at health opened shut leads vain ⊢
  obtain ⟨fault | done, next⟩ := result
  · have counted := sound.counts.failed vain connected fault next.clock
    rw [← health, ← leads.log, ← leads.settings] at counted
    exact ⟨(shut fault rfl).symm, counted⟩
  · have counted := sound.counts.idle vain connected
    rw [← health, ← leads.log, ← leads.settings] at counted
    obtain ⟨told, isOpen⟩ := opened rfl
    exact ⟨told.trans isOpen.symm, counted⟩

theorem shutdown_sound : (link.shutdown wires.recorded).Sound wires where
  connected := (steady.close link.wire.wire).symm
  counts := sound.counts.idle (Vain.close : Vain link.settings (.read 0 0 0) [] _) false

theorem Sound.step (step : Step wires.recorded
      (fun before after => after.log = before.log ∧
        wires.isOpen after.wire = wires.isOpen before.wire) link ended) : ended.Sound wires := by
  cases step with
  | clock | unseen => exact ⟨sound.connected, sound.counts⟩
  | perform operation => exact perform_sound steady sound operation
  | ensureConnected => exact ensureConnected_sound steady sound
  | shutdown => exact shutdown_sound steady sound
  | rewire change =>
    obtain ⟨log, isOpen⟩ := change
    exact ⟨sound.connected.trans isOpen.symm, by simpa [log] using sound.counts⟩

end Sound

end Link

namespace Fleet

section Uses
variable {wires : Transport τ} (steady : wires.Steady) {fleet : Fleet τ}
  (fresh : ∀ device link, fleet.links.get? device = some link →
    link.health = {} ∧ wires.isOpen link.wire = false)
  {uses : List (Use τ)}
  (careful : ∀ use ∈ uses, use.Changes fun before after =>
    wires.isOpen after = wires.isOpen before)
include steady fresh careful

end Uses

section Ensured
variable {wires : Transport τ} {fleet : Fleet τ} {device : String}

end Ensured

end Fleet
end PlcMonitor
