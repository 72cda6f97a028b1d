import PlcMonitor.Proofs.Alarm.Chronicle
import PlcMonitor.Proofs.Growing

/-! What becomes of the events of the log. A call announces what it has filed, once and nothing
else, but only in a step after its write. So each event is announced in the end, but in the order of
the log only if none is announced while an older one still waits. -/
namespace PlcMonitor

/-- The events that the store has filed when it answers so. -/
def StoreRequest.filed :
    (request : StoreRequest) → Except StoreFault request.Answer → List AlarmEvent
  | .insert .., .ok (_, event) => [event]
  | .update .., .ok (_, event) => event.toList
  | .insert .., .error _ | .update .., .error _ => []
  | .find .., _ | .get _, _ | .active, _ | .eventsOf _, _ | .recentEvents _, _ => []

namespace MemoryStore

theorem events_insert (store : MemoryStore) (row : Occurrence) (event : AlarmEvent) :
    (store.insert row event).2.events =
      store.events ++ (StoreRequest.insert row event).filed (store.insert row event).1 := by
  unfold insert
  split
  · exact (List.append_nil _).symm
  · rfl

theorem events_update (store : MemoryStore) (row : Occurrence) (event : Option AlarmEvent) :
    (store.update row event).2.events =
      store.events ++ (StoreRequest.update row event).filed (store.update row event).1 := by
  unfold update
  split
  · exact (List.append_nil _).symm
  · split
    · exact (List.append_nil _).symm
    · cases event
      · exact (List.append_nil _).symm
      · rfl

theorem events_respond (store : MemoryStore) (request : StoreRequest) :
    (store.respond request).2.events =
      store.events ++ request.filed (store.respond request).1 := by
  cases request with
  | insert row event => exact store.events_insert row event
  | update row event => exact store.events_update row event
  | find | get | active | eventsOf | recentEvents => exact (List.append_nil _).symm

theorem filed_update_none (store : MemoryStore) (row : Occurrence) :
    (StoreRequest.update row none).filed (store.respond (.update row none)).1 = [] := by
  change (StoreRequest.update row none).filed (store.update row none).1 = []
  unfold update
  split
  · rfl
  · split <;> rfl

end MemoryStore

namespace Script
variable {α β : Type}

/-- What a script announces before it asks the store again. -/
def awaits : Script α → List AlarmEvent
  | .announce event rest => event :: rest.awaits
  | .ask .. | .done _ => []

def isDone : Script α → Bool
  | .done _ => true
  | .ask .. | .announce .. => false

/-- The script announces `owed` and then, after each call of the store, what the store has filed.
What of this is left at its end can be read off its result. -/
inductive Owes (left : α → List AlarmEvent) : List AlarmEvent → Script α → Prop where
  | done {owed : List AlarmEvent} {result : α} (rest : left result = owed) :
      Owes left owed (.done result)
  | announce {event : AlarmEvent} {owed : List AlarmEvent} {rest : Script α}
      (later : Owes left owed rest) : Owes left (event :: owed) (.announce event rest)
  | ask {request : StoreRequest} {next : Except StoreFault request.Answer → Script α}
      (each : ∀ store : MemoryStore,
        Owes left (request.filed (store.respond request).1) (next (store.respond request).1)) :
      Owes left [] (.ask request next)

theorem Owes.bind {left : α → List AlarmEvent} {leftAfter : β → List AlarmEvent}
    {owed : List AlarmEvent} {script : Script α} {continuation : α → Script β}
    (owes : Owes left owed script)
    (after : ∀ result, Owes leftAfter (left result) (continuation result)) :
    Owes leftAfter owed (script.bind continuation) := by
  induction owes with
  | @done _ result rest => exact rest ▸ after result
  | announce _ ih => exact .announce ih
  | ask _ ih => exact .ask ih

/-- Nothing is left to others. -/
abbrev Pays (script : Script α) (owed : List AlarmEvent) : Prop := Owes (fun _ => []) owed script

theorem Pays.awaits_eq {script : Script α} {owed : List AlarmEvent} (pays : script.Pays owed) :
    script.awaits = owed := by
  induction pays with
  | done rest => exact rest
  | announce _ ih => exact congrArg _ ih
  | ask => rfl

end Script

open Script
open scoped List

namespace Call

theorem raise_owes (seen filed : Observation) :
    Owes (left (.observe seen)) [] (Lifecycle.raise filed) := by
  refine .ask fun store => ?_
  generalize (store.respond _).1 = answer
  rcases answer with fault | ⟨row, event⟩ <;> exact .done rfl

theorem revise_owes (seen filed : Observation) (row : Occurrence) :
    Owes (left (.observe seen)) [] (Lifecycle.revise filed row) := by
  refine .ask fun store => ?_
  generalize (store.respond _).1 = answer
  rcases answer with fault | ⟨row, event⟩ <;> exact .done rfl

theorem endorse_owes (id : Nat) (clock : Nat → Instant) (identity : String) (note : Option String)
    (now : Instant) (row : Occurrence) :
    Owes (left (.acknowledge id clock identity note)) []
      (Lifecycle.endorse now identity note row) := by
  refine .ask fun store => ?_
  have silent := store.filed_update_none (row.acknowledge now identity note)
  generalize (store.respond _).1 = answer at silent ⊢
  rw [silent]
  rcases answer with fault | ⟨row, event⟩ <;> exact .done rfl

theorem attempt_owes (call : Call) (n : Nat) : Owes call.left [] (call.attempt n) := by
  cases call with
  | observe seen =>
    refine .ask fun store => ?_
    generalize (store.respond _).1 = answer
    rcases answer with fault | _ | row
    · exact .done rfl
    · dsimp only
      split
      · exact raise_owes seen _
      · exact .done rfl
    · exact revise_owes seen _ row
  | acknowledge id clock identity note =>
    refine .ask fun store => ?_
    generalize (store.respond _).1 = answer
    rcases answer with fault | _ | row
    · exact .done rfl
    · exact .done rfl
    · exact endorse_owes id clock identity note (clock n) row

/-- Only the last attempt can have filed an event. -/
theorem retrying_owes {α : Type} {left : Except StoreFault α → List AlarmEvent}
    (none : ∀ source key, left (.error (.conflict source key)) = [])
    {attempt : Nat → Script (Except StoreFault α)} (attempts : ∀ n, Owes left [] (attempt n))
    (retries : Nat) : Owes left [] (Lifecycle.retrying attempt retries) := by
  induction retries generalizing attempt with
  | zero => exact attempts 0
  | succ retries ih =>
    refine (attempts 0).bind fun result => ?_
    rcases result with (⟨source, key⟩ | _ | _) | _
    · rw [none]
      exact ih fun n => attempts (n + 1)
    all_goals exact .done rfl

theorem finish_pays (call : Call) (result : Except StoreFault call.Answer) :
    (call.finish result).Pays (call.left result) := by
  cases call with
  | observe seen =>
    rcases result with fault | ⟨occurrence, created, state, _ | event⟩
    · exact .done rfl
    · exact .done rfl
    · exact .announce (.done rfl)
  | acknowledge id clock identity note =>
    rcases result with (_ | _ | _) | _ <;> exact .done rfl

theorem script_pays (retries : Nat) (call : Call) : (call.script retries).Pays [] := by
  rw [script_eq]
  refine (retrying_owes (fun source key => ?_) call.attempt_owes retries).bind call.finish_pays
  cases call <;> rfl

end Call

theorem exists_flatMap_set_perm {α β : Type} (f : α → List β) {items : List α} {i : Nat} {a : α}
    (at_i : items[i]? = some a) : ∃ others, (items.flatMap f).Perm (f a ++ others) ∧
      ∀ b, ((items.set i b).flatMap f).Perm (f b ++ others) := by
  induction items generalizing i with
  | nil => cases at_i
  | cons item rest ih =>
    cases i with
    | zero =>
      cases at_i
      exact ⟨rest.flatMap f, .rfl, fun _ => .rfl⟩
    | succ i =>
      obtain ⟨others, same, changed⟩ := ih at_i
      refine ⟨f item ++ others, ?_, fun b => ?_⟩
      · exact (same.append_left (f item)).trans (List.perm_append_comm_assoc ..)
      · exact ((changed b).append_left (f item)).trans (List.perm_append_comm_assoc ..)

namespace Session

/-- The events that are filed and not yet announced. -/
def awaited (session : Session) : List AlarmEvent := session.threads.flatMap (·.script.awaits)

/-- Each event of the log has been announced or is awaited. -/
structure Accounted (session : Session) : Prop where
  pays : ∀ thread ∈ session.threads, thread.script.Pays thread.script.awaits
  log : session.store.events.Perm (session.announced ++ session.awaited)

theorem accounted_empty : Accounted {} := ⟨by simp, .rfl⟩

section Step
variable {session : Session} (h : session.Accounted)
include h

theorem Accounted.start (retries : Nat) (call : Call) :
    (session.start retries call).Accounted := by
  have fresh := call.script_pays retries
  refine ⟨List.forall_mem_append.mpr ⟨h.pays, ?_⟩, ?_⟩
  · refine List.forall_mem_singleton.mpr ?_
    rwa [fresh.awaits_eq]
  · have same : (session.start retries call).awaited = session.awaited := by
      simp [awaited, Session.start, fresh.awaits_eq]
    rw [same]
    exact h.log

theorem Accounted.set {i : Nat} {call : Call}
    {script : Script (Except LifecycleFault call.Answer)} (pays : script.Pays script.awaits) :
    ∀ thread ∈ session.threads.set i ⟨call, script⟩, thread.script.Pays thread.script.awaits := by
  intro thread hthread
  rcases List.mem_or_eq_of_mem_set hthread with old | rfl
  · exact h.pays thread old
  · exact pays

theorem Accounted.announce {i : Nat} {call : Call} {event : AlarmEvent}
    {rest : Script (Except LifecycleFault call.Answer)}
    (at_i : session.threads[i]? = some ⟨call, .announce event rest⟩) :
    (session.announce i call event rest).Accounted := by
  have pays := h.pays _ (List.mem_of_getElem? at_i)
  obtain ⟨others, before, after⟩ := exists_flatMap_set_perm (fun t : Thread => t.script.awaits) at_i
  cases pays with
  | announce later =>
    refine ⟨h.set later, ?_⟩
    calc session.store.events
      _ ~ session.announced ++ session.awaited := h.log
      _ ~ session.announced ++ event :: (rest.awaits ++ others) := before.append_left _
      _ = session.announced ++ [event] ++ (rest.awaits ++ others) := List.append_cons ..
      _ ~ _ := ((after ⟨call, rest⟩).append_left _).symm

theorem Accounted.ask {i : Nat} {call : Call} {request : StoreRequest}
    {next : Except StoreFault request.Answer → Script (Except LifecycleFault call.Answer)}
    (at_i : session.threads[i]? = some ⟨call, .ask request next⟩) :
    (session.ask i call request next).Accounted := by
  have pays := h.pays _ (List.mem_of_getElem? at_i)
  obtain ⟨others, before, after⟩ := exists_flatMap_set_perm (fun t : Thread => t.script.awaits) at_i
  cases pays with
  | ask each =>
    have later : Pays _ _ := each session.store
    have grown := session.store.events_respond request
    have owed := later.awaits_eq
    generalize request.filed (session.store.respond request).1 = events at later grown owed
    refine ⟨h.set (owed.symm ▸ later), ?_⟩
    calc (session.store.respond request).2.events
      _ = session.store.events ++ events := grown
      _ ~ session.announced ++ session.awaited ++ events := h.log.append_right _
      _ = session.announced ++ (session.awaited ++ events) := List.append_assoc ..
      _ ~ session.announced ++ (others ++ events) := (before.append_right _).append_left _
      _ ~ session.announced ++ (events ++ others) := List.perm_append_comm.append_left _
      _ ~ _ := ((owed ▸ after ⟨call, _⟩).append_left _).symm

end Step

theorem accounted_run (moves : List Move) : (run moves).Accounted := by
  refine run_induction accounted_empty (fun {session next} h stepped => ?_) moves
  cases stepped with
  | idle => exact h
  | start retries call => exact h.start retries call
  | announce at_i => exact h.announce at_i
  | ask at_i => exact h.ask at_i

theorem increasing_run (moves : List Move) :
    (run moves).store.events.Pairwise fun a b => a.id < b.id := by
  rw [(simulated_run moves).serial 0]
  exact (serially_wellKept 0 _).increasing

def announces? (session : Session) : Move → Option AlarmEvent
  | .start .. => none
  | .advance i =>
    match session.threads[i]? with
    | some ⟨_, .announce event _⟩ => some event
    | some ⟨_, .ask ..⟩ | some ⟨_, .done _⟩ | none => none

theorem announced_step (session : Session) (move : Move) :
    (session.step move).announced = session.announced ++ (session.announces? move).toList := by
  cases move with
  | start retries call => exact (List.append_nil _).symm
  | advance i =>
    simp only [step, announces?]
    split <;> rename_i at_i <;> simp [at_i, ask, announce]

/-- A move that announces an event finds it awaited and leaves the store alone. -/
theorem step_of_announces {session : Session} {move : Move} {event : AlarmEvent}
    (h : session.announces? move = some event) :
    event ∈ session.awaited ∧ (session.step move).store = session.store := by
  cases move with
  | start => cases h
  | advance i =>
    simp only [announces?] at h
    split at h
    · rename_i at_i
      cases h
      refine ⟨?_, by simp only [step, at_i, announce]⟩
      exact List.mem_flatMap.mpr ⟨_, List.mem_of_getElem? at_i, List.mem_cons_self⟩
    all_goals cases h

theorem Stepped.events {session next : Session} (stepped : Stepped session next) :
    session.store.events <+: next.store.events := by
  cases stepped with
  | idle | start | announce => exact List.prefix_rfl
  | @ask i call request next at_i =>
    change _ <+: (session.store.respond request).2.events
    rw [session.store.events_respond request]
    exact List.prefix_append _ _

/-- The move announces no event while an older one is awaited. -/
def InTurn (session : Session) (move : Move) : Prop :=
  ∀ event ∈ session.announces? move, ∀ other ∈ session.awaited, event.id ≤ other.id

/-- What comes next to follow the log is the oldest of the events that are awaited. -/
theorem follows_concat_iff {log announced awaited : List AlarmEvent} {event : AlarmEvent}
    (increasing : log.Pairwise fun a b => a.id < b.id) (account : log ~ announced ++ awaited)
    (follows : announced <+: log) (hevent : event ∈ awaited) :
    announced ++ [event] <+: log ↔ ∀ other ∈ awaited, event.id ≤ other.id := by
  obtain ⟨rest, rfl⟩ := follows
  have same : rest ~ awaited := (List.perm_append_left_iff announced).mp account
  rw [List.prefix_append_right_inj]
  rw [← same.mem_iff] at hevent
  simp only [← same.mem_iff]
  cases rest with
  | nil => cases hevent
  | cons first rest =>
    obtain ⟨least, -⟩ := List.pairwise_cons.mp (List.pairwise_append.mp increasing).2.1
    constructor
    · intro begins
      obtain ⟨rfl, -⟩ := List.cons_prefix_cons.mp begins
      exact List.forall_mem_cons.mpr ⟨Nat.le_refl _, fun other hother => (least other hother).le⟩
    · intro oldest
      rcases List.mem_cons.mp hevent with rfl | later
      · exact ⟨rest, rfl⟩
      · exact absurd (oldest first List.mem_cons_self) (Nat.not_le.mpr (least event later))

theorem follows_step_iff {session : Session} (accounted : session.Accounted)
    (increasing : session.store.events.Pairwise fun a b => a.id < b.id) (move : Move) :
    (session.step move).announced <+: (session.step move).store.events ↔
      session.announced <+: session.store.events ∧ session.InTurn move := by
  have grown := (session.stepped_step move).events
  rw [announced_step, InTurn]
  cases announcing : session.announces? move with
  | none =>
    have short : session.announced.length ≤ session.store.events.length := by
      rw [accounted.log.length_eq, List.length_append]
      omega
    rw [Option.toList_none, List.append_nil]
    refine ⟨fun follows => ⟨?_, nofun⟩, fun ⟨follows, _⟩ => follows.trans grown⟩
    exact List.prefix_of_prefix_length_le follows grown short
  | some event =>
    obtain ⟨hevent, same⟩ := step_of_announces announcing
    rw [same, Option.toList_some]
    have oldest := fun follows => follows_concat_iff increasing accounted.log follows hevent
    constructor
    · intro begins
      have follows := (List.prefix_append _ _).trans begins
      exact ⟨follows, by simpa using (oldest follows).mp begins⟩
    · rintro ⟨follows, turn⟩
      exact (oldest follows).mpr (turn event rfl)

/-- At no time an event is announced while an older one is awaited. -/
def AllInTurn (moves : List Move) : Prop :=
  ∀ before move, before ++ [move] <+: moves → (run before).InTurn move

theorem allInTurn_concat {moves : List Move} {move : Move} :
    AllInTurn (moves ++ [move]) ↔ AllInTurn moves ∧ (run moves).InTurn move :=
  forall_concat_prefix_iff

theorem follows_run_iff (moves : List Move) :
    (run moves).announced <+: (run moves).store.events ↔ AllInTurn moves := by
  induction moves using List.reverseRecOn with
  | nil =>
    refine iff_of_true List.prefix_rfl fun before move begins => ?_
    simp at begins
  | append_singleton moves move ih =>
    rw [run_concat, follows_step_iff (accounted_run moves) (increasing_run moves), ih,
      allInTurn_concat]

theorem allInTurn_of_alone {moves : List Move}
    (alone : ∀ before, before <+: moves → (run before).awaited.length ≤ 1) : AllInTurn moves := by
  intro before move begins event announcing other hother
  have one := alone before ((List.prefix_append before [move]).trans begins)
  have hevent := (step_of_announces announcing).1
  generalize (run before).awaited = awaited at one hevent hother
  obtain ⟨only, rfl⟩ := List.length_eq_one_iff.mp
    (Nat.le_antisymm one (List.length_pos_of_mem hevent))
  rw [List.mem_singleton.mp hevent, List.mem_singleton.mp hother]

def Returned (session : Session) : Prop :=
  ∀ thread ∈ session.threads, thread.script.isDone = true

instance (session : Session) : Decidable session.Returned :=
  inferInstanceAs (Decidable (∀ thread ∈ session.threads, _))

theorem Returned.awaited {session : Session} (returned : session.Returned) :
    session.awaited = [] := by
  refine List.flatMap_eq_nil_iff.mpr fun thread hthread => ?_
  have done := returned thread hthread
  cases script : thread.script with
  | done result => rfl
  | ask | announce => simp [script, Script.isDone] at done

/-- However the steps of any number of calls alternate, each event of the log is announced or still
awaited, and nothing else is announced. What is announced follows the log just if no event is
announced while an older one is awaited, as when at most one is awaited at any time. -/
theorem announced_follows_iff (moves : List Move) :
    (run moves).store.events ~ (run moves).announced ++ (run moves).awaited ∧
    ((run moves).announced <+: (run moves).store.events ↔ AllInTurn moves) ∧
    ((∀ before, before <+: moves → (run before).awaited.length ≤ 1) → AllInTurn moves) ∧
    ((run moves).Returned → (run moves).announced ~ (run moves).store.events ∧
      ((run moves).announced = (run moves).store.events ↔ AllInTurn moves)) := by
  have log := (accounted_run moves).log
  refine ⟨log, follows_run_iff moves, allInTurn_of_alone, fun returned => ?_⟩
  rw [returned.awaited, List.append_nil] at log
  refine ⟨log.symm, Iff.trans ?_ (follows_run_iff moves)⟩
  exact ⟨fun same => same ▸ List.prefix_rfl, fun follows => follows.eq_of_length log.length_eq.symm⟩

/-- A pump raises an alarm and is well again before the alarm is announced. -/
def hurriedPump : List Move :=
  let seen (state : AlarmState) (timestamp : Instant) : Call :=
    .observe { source := "engine", key := "P1", state, timestamp }
  [.start 5 (seen .alarm ⟨0, 0⟩), .advance 0, .advance 0, .start 5 (seen .ok ⟨1, 0⟩), .advance 1,
    .advance 1, .advance 1, .advance 0]

theorem hurriedPump_announced_late :
    ¬∀ moves : List Move, (run moves).Returned →
      (run moves).announced = (run moves).store.events := by
  intro claimed
  have same := claimed hurriedPump (by decide)
  exact absurd (congrArg (List.map (·.id)) same) (by decide)

end Session
end PlcMonitor
