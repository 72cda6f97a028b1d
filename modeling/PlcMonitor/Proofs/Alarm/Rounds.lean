import PlcMonitor.Proofs.Alarm.Announced
import PlcMonitor.Proofs.Alarm.Keyed
import PlcMonitor.Proofs.Except

/-! Calls of the lifecycle on any store, round by round. A round is one read and at most one write;
after a conflict the next one begins, with a read of its own. A call that fails has written nothing
and announces nothing. -/
namespace PlcMonitor
variable {σ γ : Type}

structure StoreCall where
  request : StoreRequest
  answer : Except StoreFault request.Answer

namespace StoreCall

def accepted (made : StoreCall) : Bool :=
  made.request.written?.isSome && made.answer.isOk

def filed (made : StoreCall) : List AlarmEvent := made.request.filed made.answer

end StoreCall

namespace AlarmStore

/-- A read leaves the content of the store alone, and so does a write that fails. -/
structure Careful (store : AlarmStore σ) (content : σ → γ) : Prop where
  read : ∀ state (request : StoreRequest), request.written? = none →
    content (store.respond state request).2 = content state
  failed : ∀ state (request : StoreRequest) fault, (store.respond state request).1 = .error fault →
    content (store.respond state request).2 = content state

/-- The log has the events that the store says it has filed, in the order they came. -/
def Logs (store : AlarmStore σ) (log : σ → List AlarmEvent) : Prop :=
  ∀ state request, log (store.respond state request).2 =
    log state ++ request.filed (store.respond state request).1

theorem Careful.content_respond {store : AlarmStore σ} {content : σ → γ}
    (careful : store.Careful content) {state : σ} {request : StoreRequest}
    (idle : StoreCall.accepted ⟨request, (store.respond state request).1⟩ = false) :
    content (store.respond state request).2 = content state := by
  rcases (Bool.and_eq_false_iff).mp idle with read | failed
  · exact careful.read state request (by simpa using read)
  · cases answer : (store.respond state request).1 with
    | error fault => exact careful.failed state request fault answer
    | ok stored => simp [answer, Except.isOk, Except.toBool] at failed

end AlarmStore

theorem memoryStore_careful : memoryStore.Careful id where
  read store _ read := store.respond_of_read read
  failed _ _ _ := MemoryStore.respond_of_failed

theorem memoryStore_logs : memoryStore.Logs (·.events) := MemoryStore.events_respond

namespace Script
variable {α β : Type}

def calls (store : AlarmStore σ) : Script α → σ → List StoreCall
  | .done _, _ => []
  | .ask request next, state =>
    let (answer, state) := store.respond state request
    ⟨request, answer⟩ :: (next answer).calls store state
  | .announce _ rest, state => rest.calls store state

theorem run_ask (store : AlarmStore σ) (request : StoreRequest)
    (next : Except StoreFault request.Answer → Script α) (state : σ) :
    (ask request next).run store state =
      (next (store.respond state request).1).run store (store.respond state request).2 := rfl

theorem calls_ask (store : AlarmStore σ) (request : StoreRequest)
    (next : Except StoreFault request.Answer → Script α) (state : σ) :
    (ask request next).calls store state = ⟨request, (store.respond state request).1⟩ ::
      (next (store.respond state request).1).calls store (store.respond state request).2 := rfl

theorem calls_bind (store : AlarmStore σ) (script : Script α) (continuation : α → Script β)
    (state : σ) :
    (script.bind continuation).calls store state = script.calls store state ++
      (continuation (script.run store state).1).calls store (script.run store state).2.1 := by
  induction script generalizing state with
  | done result => rfl
  | ask request next ih => exact congrArg (List.cons _) (ih _ _)
  | announce event rest ih => exact ih state

theorem content_run {store : AlarmStore σ} {content : σ → γ} (careful : store.Careful content)
    (script : Script α) {state : σ}
    (idle : ∀ made ∈ script.calls store state, made.accepted = false) :
    content (script.run store state).2.1 = content state := by
  induction script generalizing state with
  | done result => rfl
  | ask request next ih =>
    obtain ⟨first, later⟩ := List.forall_mem_cons.mp idle
    exact (ih _ later).trans (careful.content_respond first)
  | announce event rest ih => exact ih idle

theorem log_run {store : AlarmStore σ} {log : σ → List AlarmEvent} (logs : store.Logs log)
    (script : Script α) (state : σ) : log (script.run store state).2.1 =
      log state ++ (script.calls store state).flatMap StoreCall.filed := by
  induction script generalizing state with
  | done result => exact (List.append_nil _).symm
  | ask request next ih =>
    refine (ih _ _).trans ?_
    rw [logs, List.append_assoc]
    rfl
  | announce event rest ih => exact ih state

end Script

namespace Call

/-- The attempt after `n` conflicts with its result, as the calls of the store that it makes: a read
of the row, and one write of what was read if there is anything to write. -/
inductive Round :
    (call : Call) → (n : Nat) → Except StoreFault call.Answer → List StoreCall → Prop
  | unseen {seen : Observation} {n : Nat} (fault : StoreFault) :
      Round (.observe seen) n (.error fault)
        [⟨.find seen.normalized.source seen.normalized.key, .error fault⟩]
  | well {seen : Observation} {n : Nat} (calm : seen.normalized.state.isActive = false) :
      Round (.observe seen) n (.ok ⟨none, false, .ok, none⟩)
        [⟨.find seen.normalized.source seen.normalized.key, .ok none⟩]
  | raised {seen filed : Observation} {n : Nat} (normal : seen.normalized = filed)
      (active : filed.state.isActive = true)
      (answer : Except StoreFault (Occurrence × AlarmEvent)) :
      Round (.observe seen) n
        (answer.map fun (row, event) => ⟨some row.id, true, row.state, some event⟩)
        [⟨.find filed.source filed.key, .ok none⟩,
         ⟨.insert filed.toOccurrence (filed.event filed.toOccurrence none), answer⟩]
  | revised {seen filed : Observation} {n : Nat} (normal : seen.normalized = filed)
      (row : Occurrence) (answer : Except StoreFault (Occurrence × Option AlarmEvent)) :
      Round (.observe seen) n
        (answer.map fun (row, event) => ⟨some row.id, false, row.state, event⟩)
        [⟨.find filed.source filed.key, .ok (some row)⟩,
         ⟨.update (row.observe filed).1 (row.observe filed).2, answer⟩]
  | unread {id : Nat} {clock : Nat → Instant} {identity : String} {note : Option String} {n : Nat}
      (fault : StoreFault) :
      Round (.acknowledge id clock identity note) n (.error fault) [⟨.get id, .error fault⟩]
  | unknown {id : Nat} {clock : Nat → Instant} {identity : String} {note : Option String}
      {n : Nat} :
      Round (.acknowledge id clock identity note) n (.error (.notFound id)) [⟨.get id, .ok none⟩]
  | endorsed {id : Nat} {clock : Nat → Instant} {identity : String} {note : Option String} {n : Nat}
      (row : Occurrence) (answer : Except StoreFault (Occurrence × Option AlarmEvent)) :
      Round (.acknowledge id clock identity note) n (answer.map (·.1))
        [⟨.get id, .ok (some row)⟩,
         ⟨.update (row.acknowledge (clock n) identity note) none, answer⟩]

theorem round_attempt (store : AlarmStore σ) (call : Call) (n : Nat) (state : σ) :
    Round call n ((call.attempt n).run store state).1 ((call.attempt n).calls store state) ∧
      ((call.attempt n).run store state).2.2 = [] := by
  cases call with
  | observe seen =>
    rw [attempt, Lifecycle.observeOnce, Script.run_ask, Script.calls_ask]
    generalize store.respond state (.find _ _) = found
    rcases found with ⟨fault | _ | row, state⟩ <;> dsimp only
    · exact ⟨.unseen fault, rfl⟩
    · split
      · rename_i active
        rw [Lifecycle.raise, Script.run_ask, Script.calls_ask]
        generalize store.respond state _ = written
        rcases written with ⟨fault | ⟨row, event⟩, state⟩
        · exact ⟨.raised rfl active (.error fault), rfl⟩
        · exact ⟨.raised rfl active (.ok (row, event)), rfl⟩
      · rename_i calm
        exact ⟨.well ((Bool.not_eq_true _).mp calm), rfl⟩
    · rw [Lifecycle.revise, Script.run_ask, Script.calls_ask]
      generalize store.respond state _ = written
      rcases written with ⟨fault | ⟨row', event⟩, state⟩
      · exact ⟨.revised rfl row (.error fault), rfl⟩
      · exact ⟨.revised rfl row (.ok (row', event)), rfl⟩
  | acknowledge id clock identity note =>
    rw [attempt, Lifecycle.acknowledgeOnce, Script.run_ask, Script.calls_ask]
    generalize store.respond state (.get _) = found
    rcases found with ⟨fault | _ | row, state⟩ <;> dsimp only
    · exact ⟨.unread fault, rfl⟩
    · exact ⟨.unknown, rfl⟩
    · rw [Lifecycle.endorse, Script.run_ask, Script.calls_ask]
      generalize store.respond state _ = written
      rcases written with ⟨fault | ⟨row', event⟩, state⟩
      · exact ⟨.endorsed row (.error fault), rfl⟩
      · exact ⟨.endorsed row (.ok (row', event)), rfl⟩

/-- The round after `n` conflicts and those that follow it, with the result of the last of them. A
round follows a conflict and nothing else, and up to `left` may follow the first; with none left a
conflict is told like any other fault. -/
inductive Rounds (call : Call) :
    (n left : Nat) → Except StoreFault call.Answer → List (List StoreCall) → Prop
  | last {n left : Nat} {result : Except StoreFault call.Answer} {calls : List StoreCall}
      (round : Round call n result calls) (ends : left = 0 ∨ lostRace result = false) :
      Rounds call n left result [calls]
  | again {n left : Nat} {source key : String} {result : Except StoreFault call.Answer}
      {calls : List StoreCall} {later : List (List StoreCall)}
      (round : Round call n (.error (.conflict source key)) calls)
      (rest : Rounds call (n + 1) left result later) :
      Rounds call n (left + 1) result (calls :: later)

section Shape
variable {call : Call} {n left : Nat} {result : Except StoreFault call.Answer}
  {calls : List StoreCall} {rounds : List (List StoreCall)}

theorem Round.accepted (round : Round call n result calls) :
    calls.countP (·.accepted) = (call.wrote result).toNat := by
  cases round with
  | raised _ _ answer | revised _ _ answer | endorsed _ answer => cases answer <;> rfl
  | unseen | well | unread | unknown => rfl

theorem Rounds.length_le (h : Rounds call n left result rounds) : rounds.length ≤ left + 1 := by
  induction h with
  | last => exact Nat.le_add_left ..
  | again _ _ ih => exact Nat.succ_le_succ ih

theorem Rounds.accepted (h : Rounds call n left result rounds) :
    rounds.flatten.countP (·.accepted) = (call.wrote result).toNat := by
  induction h with
  | last round => simpa using round.accepted
  | again round _ ih => simp [round.accepted, ih]

theorem Round.filed {seen : Observation} {result : Except StoreFault (Answer (.observe seen))}
    (round : Round (.observe seen) n result calls) :
    calls.flatMap StoreCall.filed = (Call.observe seen).left result := by
  cases round with
  | raised _ _ answer | revised _ _ answer =>
    cases answer <;> simp [StoreCall.filed, StoreRequest.filed, left, Except.map]
  | unseen | well => rfl

theorem Rounds.filed {seen : Observation}
    {result : Except StoreFault (Answer (.observe seen))}
    (h : Rounds (.observe seen) n left result rounds) :
    rounds.flatten.flatMap StoreCall.filed = (Call.observe seen).left result := by
  induction h with
  | last round => simpa using round.filed
  | again round _ ih => simpa [round.filed, Call.left] using ih

end Shape

theorem retrying_rounds (store : AlarmStore σ) (call : Call) (n left : Nat) (state : σ) :
    let script := Lifecycle.retrying (fun m => call.attempt (n + m)) left
    ∃ rounds, Rounds call n left (script.run store state).1 rounds ∧
      script.calls store state = rounds.flatten ∧ (script.run store state).2.2 = [] := by
  induction left generalizing n state with
  | zero =>
    obtain ⟨round, quiet⟩ := round_attempt store call n state
    exact ⟨_, .last round (.inl rfl), (List.append_nil _).symm, quiet⟩
  | succ left ih =>
    obtain ⟨round, quiet⟩ := round_attempt store call n state
    intro script
    have split : script =
        (call.attempt n).bind (followUp (fun m => call.attempt (n + m)) (left + 1)) :=
      retrying_eq _ _
    rw [split, Script.run_bind, Script.calls_bind]
    generalize (call.attempt n).calls store state = calls at round
    generalize (call.attempt n).run store state = ran at round quiet
    obtain ⟨result, state, events⟩ := ran
    obtain rfl : events = [] := quiet
    dsimp only at round ⊢
    cases lost : lostRace result with
    | false =>
      rw [followUp_won _ _ lost]
      exact ⟨[calls], .last round (.inr lost), rfl, rfl⟩
    | true =>
      obtain ⟨source, key, rfl⟩ := conflict_of_lostRace lost
      obtain ⟨later, rest, made, quiet⟩ := ih (n + 1) state
      have next : (fun m => call.attempt (n + (m + 1))) = fun m => call.attempt (n + 1 + m) :=
        funext fun m => congrArg call.attempt (by omega)
      simp only [followUp, next]
      exact ⟨calls :: later, .again round rest, congrArg (calls ++ ·) made, quiet⟩

theorem calls_finish (store : AlarmStore σ) (call : Call) (result : Except StoreFault call.Answer)
    (state : σ) : (call.finish result).calls store state = [] := by
  cases call with
  | observe seen =>
    rcases result with fault | ⟨occurrence, created, state, _ | event⟩ <;> rfl
  | acknowledge id clock identity note =>
    rcases result with (_ | _ | _) | _ <;> rfl

theorem script_rounds (store : AlarmStore σ) (retries : Nat) (call : Call) (state : σ) :
    ∃ rounds result, Rounds call 0 retries result rounds ∧
      (call.script retries).calls store state = rounds.flatten ∧
      ((call.script retries).run store state).1 = result.mapError call.fault ∧
      ((call.script retries).run store state).2.2 = call.left result := by
  obtain ⟨rounds, made, calls, quiet⟩ := retrying_rounds store call 0 retries state
  simp only [Nat.zero_add] at made calls quiet
  refine ⟨rounds, _, made, ?_⟩
  rw [script_eq, Script.calls_bind, Script.run_bind, calls_finish, List.append_nil]
  simp only [run_finish, quiet, List.nil_append]
  exact ⟨calls, trivial, trivial⟩

end Call

/-- On any store, whatever it answers, a call consists of at most one round more than it may make
again; each begins with a read, and another one follows a conflict and nothing else. The result is
that of the last round. A call that fails has written no row and announces nothing, and leaves the
content of a store that is careful as it was. A call that succeeds has written a row at most once,
in its last round; the event that an observation is told to have led to is the only one that was
filed, and it was filed once and announced once. -/
theorem script_leaves_no_trace (store : AlarmStore σ) (retries : Nat) (state : σ) :
    (∀ call : Call,
      let script := call.script retries
      let ran := script.run store state
      ∃ rounds result, Call.Rounds call 0 retries result rounds ∧
        rounds.length ≤ retries + 1 ∧ script.calls store state = rounds.flatten ∧
        ran.1 = result.mapError call.fault ∧
        (script.calls store state).countP (·.accepted) = (call.wrote ran.1).toNat ∧
        ∀ fault, ran.1 = .error fault → ran.2.2 = [] ∧
          ∀ (γ : Type) (content : σ → γ), store.Careful content →
            content ran.2.1 = content state) ∧
    ∀ seen transition,
      let script := Lifecycle.setState retries seen
      let ran := script.run store state
      ran.1 = .ok transition → ran.2.2 = transition.event.toList ∧
        (script.calls store state).flatMap StoreCall.filed = transition.event.toList ∧
        ∀ log, store.Logs log → log ran.2.1 = log state ++ transition.event.toList := by
  constructor
  · intro call script ran
    obtain ⟨rounds, result, made, calls, told, left⟩ := call.script_rounds store retries state
    have told : ran.1 = result.mapError call.fault := told
    have accepted : (script.calls store state).countP (·.accepted) = (call.wrote ran.1).toNat := by
      rw [calls, made.accepted, told, call.wrote_mapError]
    refine ⟨rounds, result, made, made.length_le, calls, told, accepted, fun fault failed => ?_⟩
    obtain ⟨cause, rfl, -⟩ := mapError_eq_error.mp (told.symm.trans failed)
    refine ⟨left.trans (call.left_error cause), fun γ content careful => ?_⟩
    have none : (script.calls store state).countP (·.accepted) = 0 := by
      rw [accepted, failed, call.wrote_error]
      rfl
    refine script.content_run careful fun one made => ?_
    exact (Bool.not_eq_true _).mp (List.countP_eq_zero.mp none one made)
  · intro seen transition script ran ok
    obtain ⟨rounds, result, made, calls, told, left⟩ :=
      (Call.observe seen).script_rounds store retries state
    obtain rfl : result = .ok transition := mapError_eq_ok.mp (told.symm.trans ok)
    have filed := calls ▸ made.filed
    refine ⟨left, filed, fun log logs => ?_⟩
    rw [Script.log_run logs]
    exact congrArg _ filed

/-- The store in memory, except that its calls fail as is foretold of each. -/
def ailingStore : AlarmStore (List (Option StoreFault) × MemoryStore) where
  respond := fun (foretold, store) request =>
    match foretold with
    | some fault :: foretold => (.error fault, foretold, store)
    | none :: foretold =>
      let (answer, store) := store.respond request
      (answer, foretold, store)
    | [] =>
      let (answer, store) := store.respond request
      (answer, [], store)

theorem ailingStore_careful : ailingStore.Careful Prod.snd where
  read := by
    rintro ⟨_ | ⟨_ | fault, foretold⟩, store⟩ request read
    · exact store.respond_of_read read
    · exact store.respond_of_read read
    · rfl
  failed := by
    rintro ⟨_ | ⟨_ | cause, foretold⟩, store⟩ request fault failed
    · exact MemoryStore.respond_of_failed failed
    · exact MemoryStore.respond_of_failed failed
    · rfl

theorem ailingStore_logs : ailingStore.Logs (·.2.events) := by
  rintro ⟨_ | ⟨_ | fault, foretold⟩, store⟩ request
  · exact store.events_respond request
  · exact store.events_respond request
  · cases request <;> exact (List.append_nil _).symm

/-- The first attempt meets a conflict. A second one fails for good, or it files the event. -/
theorem ailingStore_leaves_no_trace :
    let lost : StoreFault := .conflict "plant" "pump"
    let script := Lifecycle.setState 1
      { source := "plant", key := "pump", state := .alarm, timestamp := ⟨0, 0⟩ }
    let failed := script.run ailingStore ([none, some lost, none, some (.backend "full")], {})
    let taken := script.run ailingStore ([none, some lost], {})
    (failed.1 = .error (.store (.backend "full")) ∧ failed.2.1.2 = {} ∧ failed.2.2 = []) ∧
    ∃ transition, taken.1 = .ok transition ∧ transition.event.isSome = true ∧
      taken.2.1.2.events = transition.event.toList ∧ taken.2.2 = transition.event.toList := by
  intro lost script failed taken
  obtain ⟨traces, -⟩ := script_leaves_no_trace ailingStore 1
    ([none, some lost, none, some (.backend "full")], {})
  obtain ⟨rounds, result, -, -, -, -, -, fails⟩ := traces (.observe
    { source := "plant", key := "pump", state := .alarm, timestamp := ⟨0, 0⟩ })
  have fault : failed.1 = .error (.store (.backend "full")) := rfl
  obtain ⟨quiet, untouched⟩ := fails _ fault
  refine ⟨⟨fault, untouched _ Prod.snd ailingStore_careful, quiet⟩, ?_⟩
  obtain ⟨-, succeeds⟩ := script_leaves_no_trace ailingStore 1 ([none, some lost], {})
  obtain ⟨announced, -, logged⟩ := succeeds _ _ (rfl : taken.1 = .ok _)
  exact ⟨_, rfl, rfl, logged _ ailingStore_logs, announced⟩

end PlcMonitor
