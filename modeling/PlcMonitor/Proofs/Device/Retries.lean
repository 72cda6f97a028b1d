import PlcMonitor.Proofs.Device.Series
import PlcMonitor.Proofs.Except
import PlcMonitor.Proofs.Wire.Timeline

/-! How a request is tried again, step by step and with the time it takes: which attempts are made,
what lies between them, and which of them has the last word. -/
namespace PlcMonitor
variable {τ : Type}

/-- The steps that come before a request: a connection is opened if none is open. -/
def openingSteps : Option Nat → List TimedStep
  | none => [.look true]
  | some ms => [.look false, .connect (.ok ()) ms]

inductive Attempt (request : WireRequest) where
  /-- No connection could be opened. -/
  | unopened (cause : TransportFault) (ms : Nat)
  /-- The request was made, on a new connection if it is told how long opening it took. -/
  | asked (opening : Option Nat) (outcome : Except TransportFault request.Answer) (ms : Nat)

namespace Attempt
variable {request : WireRequest}

def steps : Attempt request → List TimedStep
  | .unopened cause ms => [.look false, .connect (.error cause) ms, .close]
  | .asked opening outcome ms => openingSteps opening ++ [.ask request outcome ms]

/-- What the attempt is worth: an answer counts only if it is as long as was asked for. -/
def result (device : String) : Attempt request → Except DeviceFault request.Answer
  | .unopened cause _ => .error (.connect device cause)
  | .asked _ outcome _ => (outcome >>= request.accept).mapError (.request device)

def Fails (device : String) (attempt : Attempt request) : Prop :=
  ∃ fault, attempt.result device = .error fault

theorem fits_of_result {device : String} {attempt : Attempt request} {answer : request.Answer}
    (h : attempt.result device = .ok answer) : request.Fits answer := by
  cases attempt with
  | unopened cause ms => cases h
  | asked opening outcome ms =>
    obtain ⟨brought, -, accepted⟩ := bind_eq_ok.mp (mapError_eq_ok.mp h)
    exact WireRequest.fits_of_accept accepted

section Answered
variable (device : String) (opening : Option Nat) {answer : request.Answer} (ms : Nat)

theorem result_of_fits (fits : request.Fits answer) :
    (asked opening (.ok answer) ms).result device = .ok answer := by
  have accepted : (Except.ok answer >>= request.accept) = .ok answer :=
    WireRequest.accept_of_fits fits
  exact congrArg (Except.mapError _) accepted

theorem result_of_not_fits (misfit : ¬request.Fits answer) :
    ∃ fault, (asked opening (.ok answer) ms).result device = .error fault ∧
      fault.protocolReason?.isSome = true := by
  obtain ⟨cause, refused, answered⟩ := WireRequest.accept_of_not_fits misfit
  have refused : (Except.ok answer >>= request.accept) = .error cause := refused
  exact ⟨.request device cause, congrArg (Except.mapError _) refused, answered⟩

end Answered
end Attempt

def DeviceSettings.backoff (settings : DeviceSettings) (number : Nat) : Nat :=
  (Backoff.delay settings.backoffMs settings.maxBackoffMs number.toUInt32).toNat

/-- Attempts that others follow, the first of them numbered `number`: after each the connection is
closed, and then there is a pause. -/
def retriedSteps {request : WireRequest} (settings : DeviceSettings) :
    (number : Nat) → List (Attempt request) → List TimedStep
  | _, [] => []
  | number, attempt :: later =>
    attempt.steps ++ .close :: .rest (settings.backoff number) ::
      retriedSteps settings (number + 1) later

/-- The attempts at a request: the last one, and those that failed before it. -/
structure Trial (request : WireRequest) where
  failed : List (Attempt request) := []
  last : Attempt request

namespace Trial
variable {request : WireRequest}

/-- The connection is closed after the last attempt too if it fails, and is left open if it does
not. -/
def steps (settings : DeviceSettings) (number : Nat) (trial : Trial request) : List TimedStep :=
  retriedSteps settings number trial.failed ++ trial.last.steps ++
    match trial.last.result settings.name with
    | .ok _ => []
    | .error _ => [.close]

/-- There are attempts until one succeeds, or until `attempts` have failed. -/
structure Complete (device : String) (attempts : Nat) (trial : Trial request) : Prop where
  vain : ∀ attempt ∈ trial.failed, attempt.Fails device
  bounded : trial.failed.length + 1 ≤ attempts
  exhausted : trial.last.Fails device → trial.failed.length + 1 = attempts

def after (made : Attempt request) (trial : Trial request) : Trial request :=
  { trial with failed := made :: trial.failed }

section Steps
variable (settings : DeviceSettings) (number : Nat) {made : Attempt request}

theorem steps_of_ok {answer : request.Answer} (h : made.result settings.name = .ok answer) :
    steps settings number { last := made } = made.steps := by
  simp [steps, retriedSteps, h]

theorem steps_of_error {fault : DeviceFault} (h : made.result settings.name = .error fault) :
    steps settings number { last := made } = made.steps ++ [.close] := by
  simp [steps, retriedSteps, h]

theorem steps_after (made : Attempt request) (trial : Trial request) :
    (trial.after made).steps settings number =
      made.steps ++ [.close] ++ [.rest (settings.backoff number)] ++
        trial.steps settings (number + 1) := by
  simp [steps, after, retriedSteps]

end Steps

section Complete
variable {device : String} {made : Attempt request}

theorem complete_of_ok (more : Nat) {answer : request.Answer}
    (h : made.result device = .ok answer) : Complete device (more + 1) { last := made } where
  vain := List.forall_mem_nil _
  bounded := Nat.succ_le_succ (Nat.zero_le more)
  exhausted := fun ⟨_, failed⟩ => by cases h.symm.trans failed

theorem complete_of_last (device : String) (made : Attempt request) :
    Complete device 1 { last := made } where
  vain := List.forall_mem_nil _
  bounded := Nat.le_refl 1
  exhausted _ := rfl

theorem Complete.after {attempts : Nat} {trial : Trial request}
    (h : trial.Complete device attempts) (failed : made.Fails device) :
    (trial.after made).Complete device (attempts + 1) where
  vain := List.forall_mem_cons.mpr ⟨failed, h.vain⟩
  bounded := Nat.succ_le_succ h.bounded
  exhausted last := congrArg (· + 1) (h.exhausted last)

end Complete
end Trial

namespace Link

@[simp] theorem pause_clock (link : Link τ) (pauses : Bool) :
    (link.pause pauses).clock = link.clock := by
  unfold pause
  split <;> rfl

/-- The steps lead from one link to the other, and take the time that has passed between. -/
structure Passes (wires : Transport τ) (link : Link τ) (steps : List TimedStep)
    (next : Link τ) : Prop where
  settings : next.settings = link.settings
  plays : wires.Plays link.limitMs link.wire steps next.wire
  clock : next.clock = link.clock + TimedStep.duration steps

section Passes
variable {wires : Transport τ} {link middle next : Link τ} {steps later : List TimedStep}

theorem Passes.trans (h : link.Passes wires steps middle) (h' : middle.Passes wires later next) :
    link.Passes wires (steps ++ later) next where
  settings := h'.settings.trans h.settings
  plays := by
    have plays := h'.plays
    rw [limitMs, h.settings] at plays
    exact h.plays.append plays
  clock := by rw [h'.clock, h.clock, TimedStep.duration_append, Nat.add_assoc]

theorem passes_close (wires : Transport τ) (link : Link τ) (fault : DeviceFault) :
    link.Passes wires [.close] (close wires (link.markError fault)) where
  settings := rfl
  plays := .close .nil
  clock := rfl

theorem passes_rest (wires : Transport τ) (link : Link τ) (pauses : Bool) (ms : Nat) :
    link.Passes wires [.rest ms] ((link.pause pauses).wait ms) where
  settings := pause_settings link pauses
  plays := by
    rw [wait, pause_wire]
    exact .rest .nil
  clock := by simp [wait, TimedStep.duration, TimedStep.ms]

end Passes

inductive Connected (wires : Transport τ) (link : Link τ) :
    Except DeviceFault Unit × Link τ → Prop where
  | opened {opening : Option Nat} {next : Link τ}
      (passes : link.Passes wires (openingSteps opening) next) :
      Connected wires link (.ok (), next)
  | unopened {cause : TransportFault} {ms : Nat} {next : Link τ}
      (passes : link.Passes wires [.look false, .connect (.error cause) ms, .close] next) :
      Connected wires link (.error (.connect link.name cause), next)

theorem connected_connect (wires : Transport τ) (link : Link τ) :
    Connected wires link (connect wires link) := by
  unfold connect
  split
  · rename_i isOpen
    have passes : link.Passes wires (openingSteps none) link := ⟨rfl, .look isOpen .nil, rfl⟩
    exact .opened passes
  rename_i shut
  have shut : wires.isOpen link.wire = false := (Bool.not_eq_true _).mp shut
  simp only [limitMs_pause]
  generalize paused : link.pause (wires.connect link.wire).pauses = waiting
  have settings : waiting.settings = link.settings := paused ▸ pause_settings link _
  have clock : waiting.clock = link.clock := paused ▸ pause_clock link _
  rcases ended : (wires.connect link.wire).within link.limitMs with ⟨cause | done, wire, ms⟩
  · dsimp only
    rw [name, settings]
    exact .unopened ⟨settings, .look shut (.connect ended (.close .nil)),
      by simp [wait, close, clock, TimedStep.duration, TimedStep.ms]⟩
  · refine .opened (?_ : link.Passes wires (openingSteps (some ms)) _)
    exact ⟨settings, .look shut (.connect ended .nil),
      by simp [wait, clock, openingSteps, TimedStep.duration, TimedStep.ms]⟩

theorem attempt_passes (wires : Transport τ) (request : WireRequest) (link : Link τ) :
    ∃ made : Attempt request,
      (attempt wires (request.send wires) link).1 = made.result link.name ∧
      link.Passes wires made.steps (attempt wires (request.send wires) link).2 := by
  have connected := connected_connect wires link
  unfold attempt
  generalize connect wires link = result at connected ⊢
  cases connected with
  | @unopened cause ms next passes => exact ⟨.unopened cause ms, rfl, passes⟩
  | @opened opening next passes =>
    simp only [limitMs_pause, WireRequest.send_within]
    generalize paused : next.pause (request.send wires next.wire).pauses = waiting
    have settings : waiting.settings = next.settings := paused ▸ pause_settings next _
    have clock : waiting.clock = next.clock := paused ▸ pause_clock next _
    rcases ended : (request.call wires next.wire).within next.limitMs with ⟨outcome, wire, ms⟩
    have asked : next.Passes wires [.ask request outcome ms]
        { waiting.wait ms with wire } :=
      ⟨settings, .ask ended .nil, by simp [wait, clock, TimedStep.duration, TimedStep.ms]⟩
    refine ⟨.asked opening outcome ms, ?_, ?_⟩
    · have device : waiting.name = link.name :=
        congrArg (·.name) (settings.trans passes.settings)
      rw [Attempt.result]
      cases outcome >>= request.accept with
      | ok answer => rfl
      | error cause =>
        dsimp only
        rw [device]
        rfl
    · cases outcome >>= request.accept <;> exact passes.trans asked

theorem attempts_trial (wires : Transport τ) (request : WireRequest) (more number : Nat)
    (link : Link τ) :
    let after := attempts wires (request.send wires) more number link
    ∃ trial : Trial request, trial.Complete link.name (more + 1) ∧
      after.1 = trial.last.result link.name ∧
      link.Passes wires (trial.steps link.settings number) after.2 := by
  fun_induction attempts wires (request.send wires) more number link with
  | case1 more number link answer ended attempted =>
    obtain ⟨made, result, passes⟩ := attempt_passes wires request link
    rw [attempted] at result passes
    refine ⟨{ last := made }, Trial.complete_of_ok more result.symm, result, ?_⟩
    rw [Trial.steps_of_ok link.settings number result.symm]
    exact ⟨passes.settings, passes.plays, passes.clock⟩
  | case2 number link fault ended attempted closed =>
    obtain ⟨made, result, passes⟩ := attempt_passes wires request link
    rw [attempted] at result passes
    refine ⟨{ last := made }, Trial.complete_of_last link.name made, result, ?_⟩
    rw [Trial.steps_of_error link.settings number result.symm]
    exact passes.trans (passes_close wires ended fault)
  | case3 number link fault ended attempted closed more pause ih =>
    obtain ⟨made, result, passes⟩ := attempt_passes wires request link
    rw [attempted] at result passes
    -- the attempts that are left are a trial by induction; this one and the pause go before
    have before := (passes.trans (passes_close wires ended fault)).trans
      (passes_rest wires closed (0 < pause) pause.toNat)
    obtain ⟨trial, complete, last, later⟩ := ih
    rw [name, before.settings] at complete last
    rw [before.settings] at later
    refine ⟨trial.after made, complete.after ⟨fault, result.symm⟩, last, ?_⟩
    have waits : pause.toNat = link.settings.backoff number :=
      congrArg (·.backoff number) passes.settings
    rw [Trial.steps_after, ← waits]
    exact before.trans later

/-- Whatever a connection does, a request is tried until an attempt connects and brings an answer of
the right length, or until as many attempts have failed as there may be; the last one tells the
result. The steps are those of the attempts: a connection is opened only if none is open, is closed
after each attempt that fails and after no other, and between two attempts is the pause of the
earlier. Nothing else takes time, and no call takes more than the limit. -/
theorem execute_trial (wires : Transport τ) (request : WireRequest) (link : Link τ) :
    let after := execute wires (request.send wires) link
    ∃ trial : Trial request,
      trial.Complete link.name link.settings.attempts ∧
      after.1 = trial.last.result link.name ∧
      (∀ answer, after.1 = .ok answer → request.Fits answer) ∧
      (∀ opening answer ms,
        (request.Fits answer →
          (Attempt.asked opening (.ok answer) ms).result link.name = .ok answer) ∧
        (¬request.Fits answer →
          ∃ fault, (Attempt.asked opening (.ok answer) ms).result link.name = .error fault ∧
            fault.protocolReason?.isSome = true)) ∧
      wires.Plays link.limitMs link.wire (trial.steps link.settings 0) after.2.wire ∧
      after.2.clock = link.clock + TimedStep.duration (trial.steps link.settings 0) ∧
      ∀ step ∈ trial.steps link.settings 0, step.isCall = true → step.ms ≤ link.limitMs := by
  intro after
  obtain ⟨trial, complete, last, passes⟩ :=
    attempts_trial wires request (link.settings.attempts - 1) 0 link
  rw [Nat.sub_add_cancel link.settings.attempts_pos] at complete
  refine ⟨trial, complete, last, fun answer brought => ?_, fun opening answer ms => ?_,
    passes.plays, passes.clock, passes.plays.ms_le⟩
  · exact Attempt.fits_of_result (last.symm.trans brought)
  · exact ⟨Attempt.result_of_fits link.name opening ms,
      Attempt.result_of_not_fits link.name opening ms⟩

end Link
end PlcMonitor
