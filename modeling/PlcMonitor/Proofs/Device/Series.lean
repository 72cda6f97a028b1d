import PlcMonitor.Proofs.Device.Carry

/-! Attempts at one request: the calls they make, up to the first that succeeds or until none is
left. -/
namespace PlcMonitor
variable {τ : Type}

structure Health.Clear (health : Health) : Prop where
  connected : health.connected = true
  lastErrorAt : health.lastErrorAt = none
  lastError : health.lastError = none
  consecutiveFailures : health.consecutiveFailures = 0

theorem Health.clear_markOk (health : Health) (now : Nat) : (health.markOk now).Clear :=
  ⟨rfl, rfl, rfl, rfl⟩

def DeviceSettings.attempts (settings : DeviceSettings) : Nat :=
  min (settings.retries.toNat + 1) Link.mostAttempts

theorem DeviceSettings.attempts_pos (settings : DeviceSettings) : 0 < settings.attempts := by
  unfold attempts
  have : 0 < Link.mostAttempts := by decide
  omega

def DeviceSettings.faults (settings : DeviceSettings) (calls : List WireEvent) :
    List DeviceFault :=
  PlcMonitor.faults settings.name settings.timeoutMs.toNat calls

/-- Calls made for a request that has not succeeded yet. -/
structure Vain (settings : DeviceSettings) (request : WireRequest) (found : List DeviceFault)
    (calls : List WireEvent) : Prop where
  requests : ∀ asked ∈ requests calls, asked = request
  successes : successes calls = []
  faults : settings.faults calls = found

/-- Attempts up to the first that succeeds, or until none is left; then the last fault is told. -/
inductive Series (settings : DeviceSettings) (request : WireRequest) (attempts : Nat) :
    Except DeviceFault request.Answer → List WireEvent → Prop where
  | answered {found : List DeviceFault} {vain : List WireEvent} {answer : request.Answer} :
    Vain settings request found vain → found.length < attempts →
    request.accept answer = .ok answer →
    Series settings request attempts (.ok answer) (vain ++ [.asked request (some (.ok answer))])
  | exhausted {found : List DeviceFault} {fault : DeviceFault} {vain : List WireEvent} :
    Vain settings request found vain → found.length = attempts →
    found.getLast? = some fault →
    Series settings request attempts (.error fault) vain

section Shape
variable {settings : DeviceSettings} {request : WireRequest} {attempts : Nat}
  {found later : List DeviceFault} {calls rest : List WireEvent}
  {outcome : Except DeviceFault request.Answer}

theorem Vain.nil : Vain settings request [] [] where
  requests := by simp [PlcMonitor.requests]
  successes := rfl
  faults := rfl

theorem Vain.append (h : Vain settings request found calls)
    (h' : Vain settings request later rest) :
    Vain settings request (found ++ later) (calls ++ rest) where
  requests asked hm := by
    rw [requests_append] at hm
    exact (List.mem_append.mp hm).elim (h.requests asked) (h'.requests asked)
  successes := by rw [successes_append, h.successes, h'.successes]; rfl
  faults := by
    have joined : settings.faults (calls ++ rest) = settings.faults calls ++ settings.faults rest :=
      faults_append ..
    rw [joined, h.faults, h'.faults]

theorem Vain.single {event : WireEvent} (idle : event.success? = none)
    (same : ∀ asked ∈ event.request?, asked = request) :
    Vain settings request (event.fault? settings.name settings.timeoutMs.toNat).toList [event] where
  requests asked hm := by
    obtain ⟨made, hmade, hasked⟩ := List.mem_filterMap.mp hm
    rw [List.mem_singleton.mp hmade] at hasked
    exact same asked hasked
  successes := by simp [PlcMonitor.successes, idle]
  faults := by
    unfold DeviceSettings.faults PlcMonitor.faults
    cases h : event.fault? settings.name settings.timeoutMs.toNat <;> simp [h]

theorem Vain.close : Vain settings request [] [.close] :=
  @Vain.single settings request .close rfl (by simp [WireEvent.request?])

theorem Vain.connect (reply : Reply Unit) : Vain settings request
    ((WireEvent.connect reply).fault? settings.name settings.timeoutMs.toNat).toList
    [.connect reply] :=
  .single rfl (by simp [WireEvent.request?])

theorem Vain.refused {reply : Reply request.Answer} {cause : TransportFault}
    (h : request.verdict settings.timeoutMs.toNat reply = .error cause) :
    Vain settings request [.request settings.name cause] [.asked request reply] := by
  have failed := WireEvent.fault?_of_error settings.name h
  have alone : Vain settings request _ [.asked request reply] :=
    .single (WireEvent.success?_of_error h) fun asked hm => (Option.some.inj hm).symm
  rwa [failed] at alone

/-- After an attempt that failed, the others are a series of their own. -/
theorem Series.after {fault : DeviceFault} (first : Vain settings request [fault] calls)
    (h : Series settings request attempts outcome rest) :
    Series settings request (attempts + 1) outcome (calls ++ rest) := by
  cases h with
  | answered vain fewer accepted =>
    rw [← List.append_assoc]
    exact .answered (first.append vain) (by simpa using fewer) accepted
  | exhausted vain all last =>
    refine .exhausted (first.append vain) (by simpa using all) ?_
    rw [List.getLast?_append, last]
    rfl

theorem Series.requests (h : Series settings request attempts outcome calls) :
    ∀ asked ∈ requests calls, asked = request := by
  cases h with
  | answered vain fewer accepted =>
    intro asked hm
    rw [requests_append] at hm
    rcases List.mem_append.mp hm with hm | hm
    · exact vain.requests asked hm
    · exact List.mem_singleton.mp hm
  | exhausted vain all last => exact vain.requests

theorem Series.successes_of_ok {answer : request.Answer}
    (h : Series settings request attempts (.ok answer) calls) :
    successes calls = [⟨request, answer⟩] := by
  cases h with
  | answered vain fewer accepted =>
    rw [successes_append, vain.successes]
    simp [successes, WireEvent.success?, accepted]

theorem Series.successes_of_error {fault : DeviceFault}
    (h : Series settings request attempts (.error fault) calls) : successes calls = [] := by
  cases h with
  | exhausted vain all last => exact vain.successes

theorem Series.mem_successes (h : Series settings request attempts outcome calls)
    {success : Success} (hm : success ∈ successes calls) : success.1 = request := by
  cases outcome with
  | ok answer =>
    rw [h.successes_of_ok] at hm
    rw [List.mem_singleton.mp hm]
  | error fault =>
    rw [h.successes_of_error] at hm
    cases hm

theorem Series.last_of_ok {answer : request.Answer}
    (h : Series settings request attempts (.ok answer) calls) :
    ∃ vain, calls = vain ++ [.asked request (some (.ok answer))] := by
  cases h with
  | answered vain fewer accepted => exact ⟨_, rfl⟩

theorem Series.told {fault : DeviceFault}
    (h : Series settings request attempts (.error fault) calls) :
    ∃ cause, fault = .connect settings.name cause ∨ fault = .request settings.name cause := by
  cases h with
  | exhausted vain all last =>
    have shown := List.mem_of_getLast? last
    rw [← vain.faults] at shown
    obtain ⟨event, -, tells⟩ := List.mem_filterMap.mp shown
    exact WireEvent.fault?_eq_some tells

theorem Series.successes_before {before after : List WireEvent} {event : WireEvent}
    (h : Series settings request attempts outcome (before ++ event :: after)) :
    successes before = [] := by
  have quiet : ∀ {vain : List WireEvent}, successes vain = [] → before <+: vain →
      successes before = [] := by
    rintro vain none ⟨_, rfl⟩
    rw [successes_append] at none
    exact (List.append_eq_nil_iff.mp none).1
  generalize made : before ++ event :: after = calls at h
  cases h with
  | answered vain fewer accepted =>
    -- Something comes after `before`, so it ends within the calls made in vain.
    refine quiet vain.successes ?_
    have shorter : before <+: _ ++ [_] := ⟨_, made⟩
    refine (List.prefix_concat_iff.mp shorter).resolve_left fun whole => ?_
    simp [← whole] at made
  | exhausted vain all last => exact quiet vain.successes ⟨_, made⟩

end Shape

def Link.recorded (link : Link τ) : Link (Recorded τ) := link.map fun wire => { wire }

/-- These calls lead from one link to the other, if they are made on it. -/
structure Link.Leads (link : Link (Recorded τ)) (calls : List WireEvent)
    (next : Link (Recorded τ)) : Prop where
  settings : next.settings = link.settings
  log : next.wire.log = link.wire.log ++ calls

namespace Link

theorem recorded_settings (link : Link τ) : link.recorded.settings = link.settings := rfl

theorem Leads.trans {link middle next : Link (Recorded τ)} {calls rest : List WireEvent}
    (h : link.Leads calls middle) (h' : middle.Leads rest next) :
    link.Leads (calls ++ rest) next where
  settings := h'.settings.trans h.settings
  log := by rw [h'.log, h.log, List.append_assoc]

theorem leads_drop (wires : Transport τ) (link : Link (Recorded τ)) (fault : DeviceFault) :
    link.Leads [.close] (close wires.recorded (link.markError fault)) := ⟨rfl, rfl⟩

inductive AttemptCalls (settings : DeviceSettings) (request : WireRequest) :
    Except DeviceFault request.Answer → List WireEvent → Prop where
  | succeeds {vain : List WireEvent} {answer : request.Answer} : Vain settings request [] vain →
    request.accept answer = .ok answer →
    AttemptCalls settings request (.ok answer) (vain ++ [.asked request (some (.ok answer))])
  | fails {vain : List WireEvent} {fault : DeviceFault} : Vain settings request [fault] vain →
    AttemptCalls settings request (.error fault) vain

theorem connect_recorded (wires : Transport τ) (request : WireRequest)
    (link : Link (Recorded τ)) :
    ∃ calls, link.Leads calls (connect wires.recorded link).2 ∧
      Vain link.settings request
        (match (connect wires.recorded link).1 with
        | .ok () => []
        | .error fault => [fault]) calls := by
  unfold connect
  split
  · exact ⟨[], ⟨rfl, (List.append_nil _).symm⟩, .nil⟩
  obtain ⟨reply, wire, ms, ended⟩ := Exchange.recorded_within
    (wires.connect link.wire.wire) link.wire.log .connect link.limitMs
  have made : (wires.recorded.connect link.wire).within link.limitMs = _ := ended
  simp only [limitMs_pause, made]
  have vain : Vain link.settings request _ [.connect reply] := Vain.connect reply
  cases settled : reply.settle link.limitMs with
  | ok done =>
    refine ⟨[.connect reply], ⟨by simp [wait], rfl⟩, ?_⟩
    rwa [WireEvent.fault?, show reply.settle link.settings.timeoutMs.toNat = _ from settled] at vain
  | error cause =>
    rw [WireEvent.fault?, show reply.settle link.settings.timeoutMs.toNat = _ from settled] at vain
    refine ⟨[.connect reply, .close], ⟨by simp [wait, close], ?_⟩, ?_⟩
    · exact List.append_assoc ..
    · rw [name, pause_settings]
      exact vain.append .close

theorem attempt_recorded (wires : Transport τ) (request : WireRequest)
    (link : Link (Recorded τ)) :
    ∃ calls, link.Leads calls (attempt wires.recorded (request.send wires.recorded) link).2 ∧
      AttemptCalls link.settings request
        (attempt wires.recorded (request.send wires.recorded) link).1 calls := by
  obtain ⟨opening, leads, vain⟩ := connect_recorded wires request link
  unfold attempt
  generalize connect wires.recorded link = result at leads vain ⊢
  obtain ⟨fault | done, opened⟩ := result
  · exact ⟨opening, leads, .fails vain⟩
  obtain ⟨reply, wire, ms, ended⟩ := request.send_recorded_within wires opened.wire opened.limitMs
  simp only [limitMs_pause, ended]
  cases judged : request.verdict opened.limitMs reply with
  | ok answer =>
    obtain ⟨rfl, accepted⟩ := WireRequest.verdict_eq_ok.mp judged
    refine ⟨_, leads.trans ⟨?_, rfl⟩, .succeeds vain accepted⟩
    simp [wait]
  | error cause =>
    have refused : Vain link.settings request [.request link.settings.name cause]
        [.asked request reply] := .refused (by rwa [limitMs, leads.settings] at judged)
    refine ⟨_, leads.trans ⟨?_, rfl⟩, .fails ?_⟩
    · simp [wait]
    · rw [name, pause_settings, leads.settings]
      exact vain.append refused

/-- Attempts make a series of calls, and after one that succeeds all is well with the device. -/
theorem attempts_recorded (wires : Transport τ) (request : WireRequest) (more number : Nat)
    (link : Link (Recorded τ)) :
    let after := attempts wires.recorded (request.send wires.recorded) more number link
    ∃ calls, link.Leads calls after.2 ∧ Series link.settings request (more + 1) after.1 calls ∧
      ∀ answer, after.1 = .ok answer → after.2.health.Clear := by
  fun_induction attempts wires.recorded (request.send wires.recorded) more number link with
  | case1 more number link answer ended attempted =>
    obtain ⟨calls, leads, ends⟩ := attempt_recorded wires request link
    rw [attempted] at leads ends
    cases ends with
    | succeeds vain accepted =>
      exact ⟨_, ⟨leads.settings, leads.log⟩, .answered vain (Nat.succ_pos more) accepted,
        fun _ _ => ended.health.clear_markOk ended.clock⟩
  | case2 number link fault ended attempted closed =>
    obtain ⟨calls, leads, ends⟩ := attempt_recorded wires request link
    rw [attempted] at leads ends
    cases ends with
    | fails once =>
      refine ⟨_, leads.trans (leads_drop wires ended fault),
        .exhausted (once.append .close) rfl rfl, ?_⟩
      intro answer impossible
      cases impossible
  | case3 number link fault ended attempted closed more pause ih =>
    obtain ⟨calls, leads, ends⟩ := attempt_recorded wires request link
    rw [attempted] at leads ends
    cases ends with
    | fails once =>
      -- The attempts that are left are a series by induction; the calls of this one go before.
      have dropped : ended.Leads [.close] closed := leads_drop wires ended fault
      have rested : closed.Leads [] ((closed.pause (0 < pause)).wait pause.toNat) :=
        ⟨by simp [wait], by simp [wait]⟩
      have before := (leads.trans dropped).trans rested
      obtain ⟨rest, again, series, clear⟩ := ih
      rw [before.settings] at series
      exact ⟨_, before.trans again, series.after (by simpa using once.append .close), clear⟩

/-- All attempts at a request of a device with these settings, and the link they leave. -/
structure Asks (link : Link (Recorded τ)) (settings : DeviceSettings) (request : WireRequest)
    (outcome : Except DeviceFault request.Answer) (calls : List WireEvent)
    (next : Link (Recorded τ)) : Prop where
  leads : link.Leads calls next
  series : Series settings request settings.attempts outcome calls
  clear : ∀ answer, outcome = .ok answer → next.health.Clear

section Asks
variable {settings : DeviceSettings} {link : Link (Recorded τ)} (own : link.settings = settings)
include own

theorem execute_asks (wires : Transport τ) (request : WireRequest) :
    ∃ calls, link.Asks settings request
      (execute wires.recorded (request.send wires.recorded) link).1 calls
      (execute wires.recorded (request.send wires.recorded) link).2 := by
  subst own
  obtain ⟨calls, leads, series, clear⟩ :=
    attempts_recorded wires request (link.settings.attempts - 1) 0 link
  rw [Nat.sub_add_cancel link.settings.attempts_pos] at series
  exact ⟨calls, leads, series, clear⟩

theorem writeWord_asks (wires : Transport τ) (address value : UInt16) :
    ∃ calls, link.Asks settings (.write settings.unit address value)
      (writeWord wires.recorded address value link).1 calls
      (writeWord wires.recorded address value link).2 := by
  subst own
  exact execute_asks rfl wires (.write link.settings.unit address value)

theorem readWord_asks (wires : Transport τ) (address : UInt16) :
    ∃ calls, link.Asks settings (.read settings.unit address 1)
      ((readWord wires.recorded address link).1.map fun word => [word]) calls
      (readWord wires.recorded address link).2 := by
  subst own
  obtain ⟨calls, asks⟩ := execute_asks rfl wires (.read link.settings.unit address 1)
  change link.Asks link.settings (.read link.settings.unit address 1)
    (readWords wires.recorded address 1 link).1 calls
    (readWords wires.recorded address 1 link).2 at asks
  refine ⟨calls, ?_⟩
  unfold readWord
  generalize readWords wires.recorded address 1 link = result at asks ⊢
  obtain ⟨fault | words, next⟩ := result
  · exact asks
  · obtain ⟨word, rfl⟩ : ∃ word, words = [word] := by
      have series : Series link.settings (.read link.settings.unit address 1)
        link.settings.attempts (.ok words) calls := asks.series
      cases series with
      | answered vain fewer accepted =>
        exact List.length_eq_one_iff.mp (WireRequest.length_of_accept accepted)
    exact asks

end Asks
end Link
end PlcMonitor
