import PlcMonitor.Proofs.Alarm.Attempt

/-! Calls of the lifecycle that share one store, their steps in any order. Every state that they
reach is the one that the calls whose write was accepted reach one after another, each at once. -/
namespace PlcMonitor

structure Thread where
  call : Call
  script : Script (Except LifecycleFault call.Answer)

structure JournalEntry where
  thread : Nat
  call : Call
  request : StoreRequest
  answer : Except StoreFault request.Answer

namespace JournalEntry

def commits (entry : JournalEntry) : Bool :=
  entry.request.written?.isSome && entry.answer.isOk

/-- A write that came too late. -/
def conflicts (entry : JournalEntry) : Bool := lostRace entry.answer

theorem not_conflicts_of_commits {entry : JournalEntry} (h : entry.commits = true) :
    entry.conflicts = false := by
  obtain ⟨thread, call, request, answer⟩ := entry
  cases answer with
  | error fault => simp [commits, Except.isOk, Except.toBool] at h
  | ok answer => rfl

end JournalEntry

/-- Threads on one store, all store calls so far, and the events announced. -/
structure Session where
  store : MemoryStore := {}
  threads : List Thread := []
  journal : List JournalEntry := []
  announced : List AlarmEvent := []

/-- A new call begins, or a thread takes its next step. -/
inductive Move where
  | start (retries : Nat) (call : Call)
  | advance (thread : Nat)

namespace Session

def ask (session : Session) (i : Nat) (call : Call) (request : StoreRequest)
    (next : Except StoreFault request.Answer → Script (Except LifecycleFault call.Answer)) :
    Session :=
  let (answer, store) := memoryStore.respond session.store request
  { session with
    store
    threads := session.threads.set i ⟨call, next answer⟩
    journal := session.journal ++ [⟨i, call, request, answer⟩] }

def announce (session : Session) (i : Nat) (call : Call) (event : AlarmEvent)
    (rest : Script (Except LifecycleFault call.Answer)) : Session :=
  { session with
    threads := session.threads.set i ⟨call, rest⟩
    announced := session.announced ++ [event] }

def start (session : Session) (retries : Nat) (call : Call) : Session :=
  { session with threads := session.threads ++ [⟨call, call.script retries⟩] }

def step (session : Session) : Move → Session
  | .start retries call => session.start retries call
  | .advance i =>
    match session.threads[i]? with
    | some ⟨call, .ask request next⟩ => session.ask i call request next
    | some ⟨call, .announce event rest⟩ => session.announce i call event rest
    | some ⟨_, .done _⟩ | none => session

def run (moves : List Move) : Session := moves.foldl step {}

theorem run_concat (moves : List Move) (move : Move) :
    run (moves ++ [move]) = (run moves).step move := List.foldl_append

inductive Stepped (session : Session) : Session → Prop where
  | idle : Stepped session session
  | start (retries : Nat) (call : Call) : Stepped session (session.start retries call)
  | announce {i : Nat} {call : Call} {event : AlarmEvent}
      {rest : Script (Except LifecycleFault call.Answer)}
      (at_i : session.threads[i]? = some ⟨call, .announce event rest⟩) :
      Stepped session (session.announce i call event rest)
  | ask {i : Nat} {call : Call} {request : StoreRequest}
      {next : Except StoreFault request.Answer → Script (Except LifecycleFault call.Answer)}
      (at_i : session.threads[i]? = some ⟨call, .ask request next⟩) :
      Stepped session (session.ask i call request next)

theorem stepped_step (session : Session) (move : Move) : Stepped session (session.step move) := by
  cases move with
  | start retries call => exact .start retries call
  | advance i =>
    simp only [step]
    split <;> rename_i at_i
    · exact .ask at_i
    · exact .announce at_i
    · exact .idle
    · exact .idle

theorem run_induction {motive : Session → Prop} (empty : motive {})
    (step : ∀ {session next}, motive session → Stepped session next → motive next)
    (moves : List Move) : motive (run moves) :=
  List.foldlRecOn moves Session.step empty fun session h move _ =>
    step h (session.stepped_step move)

/-- How often a write of the thread came too late. -/
def conflicts (session : Session) (i : Nat) : Nat :=
  session.journal.countP fun entry => entry.thread = i && entry.conflicts

def committers (session : Session) : List Nat :=
  (session.journal.filter (·.commits)).map (·.thread)

/-- Their calls, each with the clock of the attempt that wrote. -/
def committed (session : Session) : List Call :=
  (session.journal.filter (·.commits)).map fun entry =>
    entry.call.after (session.conflicts entry.thread)

end Session

def serially (retries : Nat) (calls : List Call) : MemoryStore :=
  calls.foldl (fun store call => ((call.script retries).run memoryStore store).2.1) {}

theorem serially_concat (retries : Nat) (calls : List Call) (call : Call) :
    serially retries (calls ++ [call]) =
      ((call.script retries).run memoryStore (serially retries calls)).2.1 := by
  simp [serially]

/-- A thread that asks the store for nothing more. -/
inductive Settled (call : Call) (wrote : Bool) :
    Script (Except LifecycleFault call.Answer) → Prop where
  | done {result : Except LifecycleFault call.Answer} (reports : call.wrote result = wrote) :
      Settled call wrote (.done result)
  | announce {event : AlarmEvent} {rest : Script (Except LifecycleFault call.Answer)}
      (settled : Settled call wrote rest) : Settled call wrote (.announce event rest)

theorem settled_finish (call : Call) (result : Except StoreFault call.Answer) :
    Settled call (call.wrote result) (call.finish result) := by
  cases call with
  | observe seen =>
    rcases result with fault | ⟨occurrence, created, state, _ | event⟩
    · exact .done rfl
    · exact .done rfl
    · exact .announce (.done rfl)
  | acknowledge id clock identity note =>
    rcases result with (_ | _ | _) | _ <;> exact .done rfl

theorem settled_error (call : Call) (fault : StoreFault) :
    Settled call false (call.finish (.error fault)) := by
  rw [← call.wrote_error fault]
  exact settled_finish call _

/-- The rest of the attempt after `n` conflicts, and all that may come after it. -/
def resume (call : Call) (n retries : Nat) (rest : Script (Except StoreFault call.Answer)) :
    Script (Except LifecycleFault call.Answer) :=
  (rest.bind (followUp (fun m => call.attempt (n + m)) retries)).bind call.finish

theorem script_eq_resume (retries : Nat) (call : Call) :
    call.script retries = resume call 0 retries (call.attempt 0) := by
  rw [Call.script_eq, retrying_eq, resume]
  simp only [Nat.zero_add]

theorem resume_won {call : Call} {n retries : Nat} {result : Except StoreFault call.Answer}
    (won : lostRace result = false) :
    resume call n retries (.done result) = call.finish result := by
  simp only [resume, Script.bind, followUp_won _ _ won]

theorem resume_last (call : Call) (n : Nat) (result : Except StoreFault call.Answer) :
    resume call n 0 (.done result) = call.finish result := by
  simp only [resume, Script.bind, followUp]

theorem resume_lost (call : Call) (n retries : Nat) (source key : String) :
    resume call n (retries + 1) (.done (.error (.conflict source key))) =
      resume call (n + 1) retries (call.attempt (n + 1)) := by
  simp only [resume, Script.bind, followUp, retrying_eq]
  simp only [Nat.add_assoc, Nat.add_comm 1]

/-- Where a thread may be: at the beginning of an attempt, before its write, or past all writes. -/
inductive Stage (store : MemoryStore) (call : Call) :
    Nat → Bool → Script (Except LifecycleFault call.Answer) → Prop where
  | reading {n : Nat} (retries : Nat) :
      Stage store call n false (resume call n retries (call.attempt n))
  | writing {n : Nat} (retries : Nat) {rest : Script (Except StoreFault call.Answer)}
      (ready : Call.Ready store call n rest) :
      Stage store call n false (resume call n retries rest)
  | ended {n : Nat} {wrote : Bool} {script : Script (Except LifecycleFault call.Answer)}
      (settled : Settled call wrote script) : Stage store call n wrote script

theorem Stage.evolve {store next : MemoryStore} {call : Call} {n : Nat} {wrote : Bool}
    {script : Script (Except LifecycleFault call.Answer)} (stage : Stage store call n wrote script)
    (evolves : Evolves store next) : Stage next call n wrote script := by
  cases stage with
  | reading retries => exact .reading retries
  | writing retries ready => exact .writing retries (ready.evolve evolves)
  | ended settled => exact .ended settled

/-- What a step does that asks the store: nothing to it, or a conflict, or the whole effect. -/
inductive Asked (store : MemoryStore) (call : Call) (n : Nat) {request : StoreRequest}
    (next : Except StoreFault request.Answer → Script (Except LifecycleFault call.Answer))
    (answer : Except StoreFault request.Answer) : MemoryStore → Prop where
  | read (noWrite : request.written? = none) (won : lostRace answer = false)
      (stage : Stage store call n false (next answer)) : Asked store call n next answer store
  | late (refused : answer.isOk = false) (lost : lostRace answer = true)
      (stage : Stage store call (n + 1) false (next answer)) : Asked store call n next answer store
  | wrote (write : request.written?.isSome = true) (accepted : answer.isOk = true)
      (won : lostRace answer = false) (settled : Settled call true (next answer)) :
      Asked store call n next answer (call.effect n store)

section Asking
variable {store : MemoryStore} {call : Call} {n : Nat} (retries : Nat) {request : StoreRequest}
  {next : Except StoreFault request.Answer → Script (Except StoreFault call.Answer)}

theorem asked_of_reads (reads : Call.Reads store call n (.ask request next)) :
    Asked store call n (fun answer => resume call n retries (next answer))
      (store.respond request).1 (store.respond request).2 := by
  cases reads with
  | found read answers ready fresh =>
    rw [answers]
    exact .read read rfl (.writing retries ready)
  | ended read answers ends idle wrote won =>
    rw [answers]
    refine .read read rfl (.ended ?_)
    dsimp only
    rw [ends, resume_won won, ← wrote]
    exact settled_finish call _

theorem asked_of_refused (refused : Call.Refused store (.ask request next)) :
    Asked store call n (fun answer => resume call n retries (next answer))
      (store.respond request).1 (store.respond request).2 := by
  obtain ⟨write, answer, ends⟩ := refused
  rw [answer]
  refine .late rfl rfl ?_
  dsimp only
  rw [ends]
  cases retries with
  | zero =>
    rw [resume_last]
    exact .ended (settled_error call _)
  | succ retries =>
    rw [resume_lost]
    exact .reading retries

theorem asked_of_accepted (accepted : Call.Accepted store call n (.ask request next)) :
    Asked store call n (fun answer => resume call n retries (next answer))
      (store.respond request).1 (store.respond request).2 := by
  obtain ⟨write, answer, ends, wrote, won⟩ := accepted
  rw [answer]
  refine .wrote write rfl rfl ?_
  dsimp only
  rw [ends, resume_won won, ← wrote]
  exact settled_finish call _

end Asking

theorem Stage.ask {store : MemoryStore} (h : store.Indexed) {call : Call} {n : Nat} {wrote : Bool}
    {request : StoreRequest}
    {next : Except StoreFault request.Answer → Script (Except LifecycleFault call.Answer)}
    (stage : Stage store call n wrote (.ask request next)) :
    wrote = false ∧
      Asked store call n next (store.respond request).1 (store.respond request).2 := by
  generalize script : Script.ask request next = rest at stage
  cases stage with
  | reading retries =>
    have reads := call.attempt_reads h n
    generalize call.attempt n = attempt at reads script
    cases id reads <;> cases script <;> exact ⟨rfl, asked_of_reads retries reads⟩
  | writing retries ready =>
    rcases ready.writes h with refused | accepted
    · cases id refused
      cases script
      exact ⟨rfl, asked_of_refused retries refused⟩
    · cases id accepted
      cases script
      exact ⟨rfl, asked_of_accepted retries accepted⟩
  | ended settled =>
    subst script
    cases settled

theorem Stage.settled {store : MemoryStore} (h : store.Indexed) {call : Call} {n : Nat}
    {wrote : Bool} {script : Script (Except LifecycleFault call.Answer)}
    (stage : Stage store call n wrote script)
    (silent : ∀ request next, script ≠ .ask request next) : Settled call wrote script := by
  cases stage with
  | reading retries =>
    have reads := call.attempt_reads h n
    generalize call.attempt n = attempt at reads silent
    cases reads <;> exact absurd rfl (silent _ _)
  | writing retries ready =>
    rcases ready.writes h with refused | accepted
    · cases refused
      exact absurd rfl (silent _ _)
    · cases accepted
      exact absurd rfl (silent _ _)
  | ended settled => exact settled

end PlcMonitor
