import PlcMonitor.Proofs.Alarm.Keyed
import PlcMonitor.Proofs.Alarm.Serial

/-! What a call must have met before it gives up. An attempt reads its row, and its write is refused
only if another call has written the row since. So each attempt that fails is charged to a write
that came between its read and its own, and no write is charged twice. -/
namespace PlcMonitor
open MemoryStore

theorem Held.not_renames {store : MemoryStore} {copy row : Occurrence} {event : Option AlarmEvent}
    (held : Held store copy) (revises : copy.Revises row event) :
    ¬(StoreRequest.update row event).Renames store := by
  rintro ⟨stored, found, current, renamed⟩
  obtain ⟨stored', found', age⟩ := held
  obtain rfl : stored = stored' := Option.some.inj (found.symm.trans (revises.id ▸ found'))
  rcases age with rfl | older
  · exact renamed ⟨revises.source, revises.key⟩
  · have := revises.version
    omega

namespace Call

def IsOn (store : MemoryStore) : Call → (source key : String) → Prop
  | .observe seen, source, key => seen.normalized.source = source ∧ seen.normalized.key = key
  | .acknowledge id .., source, key =>
    ∃ row, store.rows.get? id = some row ∧ row.source = source ∧ row.key = key

theorem IsOn.unique {store : MemoryStore} {call : Call} {source key source' key' : String}
    (on : call.IsOn store source key) (on' : call.IsOn store source' key') :
    source = source' ∧ key = key' := by
  cases call with
  | observe seen => exact ⟨on.1.symm.trans on'.1, on.2.symm.trans on'.2⟩
  | acknowledge id clock identity note =>
    obtain ⟨row, found, rfl, rfl⟩ := on
    obtain ⟨row', found', rfl, rfl⟩ := on'
    cases found.symm.trans found'
    exact ⟨rfl, rfl⟩

theorem IsOn.responded {store next : MemoryStore} (h : store.Indexed) {request : StoreRequest}
    (responded : Responded store request next) {call : Call} {source key : String}
    (on : call.IsOn store source key) : call.IsOn next source key := by
  cases call with
  | observe seen => exact on
  | acknowledge id clock identity note =>
    obtain ⟨row, found, rfl, rfl⟩ := on
    exact responded.named h found

/-- A write that is accepted as long as the row of a source and key is as it was `seen`. -/
structure Writes (call : Call) (source key : String) (seen : Option Occurrence)
    (request : StoreRequest)
    (next : Except StoreFault request.Answer → Script (Except StoreFault call.Answer)) : Prop where
  named : ∃ row, request.written? = some row ∧ row.source = source ∧ row.key = key
  accepted : ∀ {store : MemoryStore}, store.Indexed → store.find? source key = seen →
    ∃ answer, (store.respond request).1 = .ok answer
  succeeds : ∀ answer, ∃ result, next (.ok answer) = .done (.ok result)
  fails : ∀ fault, next (.error fault) = .done (.error fault)

theorem writes_of_begins {call : Call} {row : Occurrence} {event : AlarmEvent}
    {next : Except StoreFault (Occurrence × AlarmEvent) → Script (Except StoreFault call.Answer)}
    (succeeds : ∀ answer, ∃ result, next (.ok answer) = .done (.ok result))
    (fails : ∀ fault, next (.error fault) = .done (.error fault)) :
    call.Writes row.source row.key none (.insert row event) next where
  named := ⟨row, rfl, rfl, rfl⟩
  accepted h absent :=
    ⟨_, congrArg Prod.fst (insert_accepted event (h.find?_eq_none_iff.mp absent))⟩
  succeeds := succeeds
  fails := fails

theorem writes_of_revises {call : Call} {copy row : Occurrence} {event : Option AlarmEvent}
    {next : Except StoreFault (Occurrence × Option AlarmEvent) →
      Script (Except StoreFault call.Answer)}
    (revises : copy.Revises row event)
    (succeeds : ∀ answer, ∃ result, next (.ok answer) = .done (.ok result))
    (fails : ∀ fault, next (.error fault) = .done (.error fault)) :
    call.Writes copy.source copy.key (some copy) (.update row event) next where
  named := ⟨row, rfl, revises.source, revises.key⟩
  accepted h seen :=
    ⟨_, congrArg Prod.fst (update_accepted (h.find?_eq_some_iff.mp seen).1 revises)⟩
  succeeds := succeeds
  fails := fails

/-- The write that is left once an attempt has read its row. -/
inductive Opens (store : MemoryStore) (call : Call) :
    Script (Except StoreFault call.Answer) → Prop where
  | intro {source key : String} {request : StoreRequest}
      {next : Except StoreFault request.Answer → Script (Except StoreFault call.Answer)}
      (on : call.IsOn store source key)
      (writes : call.Writes source key (store.find? source key) request next) :
      Opens store call (.ask request next)

theorem Accepted.current {store : MemoryStore} {call : Call} {n : Nat} {copy row : Occurrence}
    {event : Option AlarmEvent}
    {next : Except StoreFault (Occurrence × Option AlarmEvent) →
      Script (Except StoreFault call.Answer)}
    (fresh : Accepted store call n (.ask (.update row event) next)) (held : Held store copy)
    (revises : copy.Revises row event) : store.rows.get? copy.id = some copy :=
  held.current_or_stale.resolve_right fun stale => by
    obtain ⟨-, answer, -⟩ := fresh
    cases answer.symm.trans (stale revises)

/-- A write that would be accepted at once depends on its row being as it is. -/
theorem Ready.opens {store : MemoryStore} (h : store.Indexed) {call : Call} {n : Nat}
    {rest : Script (Except StoreFault call.Answer)} (ready : Ready store call n rest)
    (fresh : Accepted store call n rest) : Opens store call rest := by
  cases ready with
  | @raise seen filed n normal active =>
    -- the insertion is accepted, so no row has the names
    have free : store.find? filed.source filed.key = none := by
      refine h.find?_eq_none_iff.mpr (not_not.mp fun taken => ?_)
      obtain ⟨-, answer, -⟩ := id fresh
      cases answer.symm.trans (@insert_taken store filed.toOccurrence _ taken)
    have on : IsOn store (.observe seen) filed.source filed.key := by
      rw [← normal]
      exact ⟨rfl, rfl⟩
    refine .intro on ?_
    rw [free]
    exact @writes_of_begins _ filed.toOccurrence _ _ (fun _ => ⟨_, rfl⟩) fun _ => rfl
  | @revise seen filed n copy normal held source key =>
    have found := Accepted.current fresh held (copy.observe_revises filed)
    have on : IsOn store (.observe seen) copy.source copy.key := by
      rw [source, key, ← normal]
      exact ⟨rfl, rfl⟩
    refine .intro on ?_
    rw [h.find?_eq_some_iff.mpr ⟨found, rfl, rfl⟩]
    exact writes_of_revises (copy.observe_revises filed) (fun _ => ⟨_, rfl⟩) fun _ => rfl
  | @endorse clock identity note n copy held =>
    have found := Accepted.current fresh held (copy.acknowledge_revises (clock n) identity note)
    have on : IsOn store (.acknowledge copy.id clock identity note) copy.source copy.key :=
      ⟨copy, found, rfl, rfl⟩
    refine .intro on ?_
    rw [h.find?_eq_some_iff.mpr ⟨found, rfl, rfl⟩]
    exact writes_of_revises (copy.acknowledge_revises (clock n) identity note)
      (fun _ => ⟨_, rfl⟩) fun _ => rfl

theorem Ready.not_renames {store : MemoryStore} {call : Call} {n : Nat} {request : StoreRequest}
    {next : Except StoreFault request.Answer → Script (Except StoreFault call.Answer)}
    (ready : Ready store call n (.ask request next)) : ¬request.Renames store := by
  generalize asks : Script.ask request next = rest at ready
  cases ready with
  | raise =>
    cases asks
    exact id
  | revise normal held =>
    cases asks
    exact held.not_renames (Occurrence.observe_revises _ _)
  | endorse held =>
    cases asks
    exact held.not_renames (Occurrence.acknowledge_revises _ _ _ _)

end Call

theorem Stage.not_renames {store : MemoryStore} (h : store.Indexed) {call : Call} {n : Nat}
    {wrote : Bool} {request : StoreRequest}
    {next : Except StoreFault request.Answer → Script (Except LifecycleFault call.Answer)}
    (stage : Stage store call n wrote (.ask request next)) : ¬request.Renames store := by
  generalize script : Script.ask request next = rest at stage
  cases stage with
  | reading retries =>
    have reads := call.attempt_reads h n
    generalize call.attempt n = attempt at reads script
    cases reads <;> cases script <;> exact StoreRequest.not_renames_of_read ‹_›
  | writing retries ready =>
    cases id ready <;> cases script <;> exact ready.not_renames
  | ended settled =>
    subst script
    cases settled

/-- A script that asks for nothing more and does not end with a conflict. -/
def Script.Spared {α : Type} : Script (Except LifecycleFault α) → Prop
  | .done result => ∀ source key, result ≠ .error (.store (.conflict source key))
  | .announce _ rest => rest.Spared
  | .ask .. => False

theorem Call.spared_finish (call : Call) {result : Except StoreFault call.Answer}
    (won : lostRace result = false) : (call.finish result).Spared := by
  cases call with
  | observe seen =>
    rcases result with (_ | _ | _) | ⟨occurrence, created, state, _ | event⟩
    · cases won
    all_goals exact fun _ _ => nofun
  | acknowledge id clock identity note =>
    rcases result with (_ | _ | _) | _
    · cases won
    all_goals exact fun _ _ => nofun

theorem Call.finish_conflict (call : Call) (source key : String) :
    call.finish (.error (.conflict source key)) =
      .done (.error (.store (.conflict source key))) := by
  cases call <;> rfl

namespace Session

theorem respond_of_not_commits {store : MemoryStore} {i : Nat} {call : Call}
    {request : StoreRequest}
    (idle : JournalEntry.commits ⟨i, call, request, (store.respond request).1⟩ = false) :
    (store.respond request).2 = store := by
  rcases (Bool.and_eq_false_iff).mp idle with read | failed
  · exact store.respond_of_read (by simpa using read)
  · cases answer : (store.respond request).1 with
    | error fault => exact respond_of_failed answer
    | ok stored => simp [answer, Except.isOk, Except.toBool] at failed

/-- A write of another thread than `i` to the row of a source and key that was accepted. -/
def isRival (i : Nat) (source key : String) (entry : JournalEntry) : Bool :=
  entry.thread ≠ i && entry.commits && entry.request.writes source key

theorem find?_of_not_rival {store : MemoryStore} (h : store.Indexed) {i j : Nat}
    (elsewhere : j ≠ i) {call : Call} {request : StoreRequest} (keeps : ¬request.Renames store)
    {source key : String}
    (calm : isRival i source key ⟨j, call, request, (store.respond request).1⟩ = false) :
    (store.respond request).2.find? source key = store.find? source key := by
  cases commits : JournalEntry.commits ⟨j, call, request, (store.respond request).1⟩ with
  | false => rw [respond_of_not_commits commits]
  | true =>
    refine (responded keeps).find?_of_not_writes h ?_
    simpa [isRival, elsewhere, commits] using calm

/-- The rivals since the first store call of thread `i`. -/
def met (session : Session) (i : Nat) (source key : String) : Nat :=
  (fromFirst (·.thread = i) session.journal).countP (isRival i source key)

/-- The rivals between the first and the last store call of thread `i`. -/
def rivals (session : Session) (i : Nat) (source key : String) : Nat :=
  (fromFirstToLast (·.thread = i) session.journal).countP (isRival i source key)

section Journal
variable {session next : Session} {entry : JournalEntry} {i : Nat} {source key : String}
  (journal : next.journal = session.journal ++ [entry])
include journal

theorem met_le_concat : session.met i source key ≤ next.met i source key := by
  unfold met
  rw [journal]
  exact fromFirst_prefix_concat.sublist.countP_le

theorem met_concat_rival (begun : ∃ old ∈ session.journal, old.thread = i)
    (rival : isRival i source key entry = true) :
    next.met i source key = session.met i source key + 1 := by
  unfold met
  rw [journal, fromFirst_concat (by simpa using begun), List.countP_append,
    List.countP_singleton, if_pos rival]

theorem rivals_concat_self (own : entry.thread = i) :
    next.rivals i source key = session.met i source key := by
  have none : isRival i source key entry = false := by simp [isRival, own]
  unfold rivals met
  rw [journal, fromFirstToLast_concat_of_pos (by simpa using own), List.countP_append,
    List.countP_singleton, none]
  rfl

theorem rivals_concat_of_ne (other : entry.thread ≠ i) :
    next.rivals i source key = session.rivals i source key := by
  unfold rivals
  rw [journal, fromFirstToLast_concat_of_neg (by simpa using other)]

end Journal

/-- What a thread that may make `retries` more attempts has met: each attempt that failed, a rival
of its own; an attempt whose row has changed since it was read, one more. -/
inductive Racing (session : Session) (i retries : Nat) (call : Call) :
    Script (Except LifecycleFault call.Answer) → Prop where
  | reading {n left : Nat} (count : n + left = retries)
      (charged : n = 0 ∨ ∃ source key, call.IsOn session.store source key ∧
        n ≤ session.met i source key) :
      Racing session i retries call (resume call n left (call.attempt n))
  | writing {n left : Nat} {source key : String} {seen : Option Occurrence}
      {request : StoreRequest}
      {next : Except StoreFault request.Answer → Script (Except StoreFault call.Answer)}
      (count : n + left = retries) (begun : ∃ entry ∈ session.journal, entry.thread = i)
      (on : call.IsOn session.store source key)
      (writes : call.Writes source key seen request next)
      (charged : n ≤ session.met i source key)
      (race : session.store.find? source key = seen ∨ n < session.met i source key) :
      Racing session i retries call (resume call n left (.ask request next))
  | spared {script : Script (Except LifecycleFault call.Answer)} (spared : script.Spared) :
      Racing session i retries call script
  | lost {source key : String} (on : call.IsOn session.store source key)
      (charged : retries < session.rivals i source key) :
      Racing session i retries call (.done (.error (.store (.conflict source key))))

structure Answered (session : Session) (i : Nat) (call : Call) (request : StoreRequest)
    (next : Session) : Prop where
  store : next.store = (session.store.respond request).2
  journal : next.journal =
    session.journal ++ [⟨i, call, request, (session.store.respond request).1⟩]

theorem answered_ask (session : Session) (i : Nat) (call : Call) (request : StoreRequest)
    (rest : Except StoreFault request.Answer → Script (Except LifecycleFault call.Answer)) :
    session.Answered i call request (session.ask i call request rest) := ⟨rfl, rfl⟩

theorem Racing.start (session : Session) (i retries : Nat) (call : Call) :
    Racing session i retries call (call.script retries) := by
  rw [script_eq_resume]
  exact .reading (Nat.zero_add retries) (.inl rfl)

section Step
variable {session next : Session} {i retries : Nat} {call : Call}
  {script : Script (Except LifecycleFault call.Answer)}

theorem Racing.congr (racing : Racing session i retries call script)
    (store : next.store = session.store) (journal : next.journal = session.journal) :
    Racing next i retries call script := by
  obtain ⟨_, threads, _, announced⟩ := next
  obtain rfl : _ = session.store := store
  obtain rfl : _ = session.journal := journal
  cases racing with
  | reading count charged => exact .reading count charged
  | writing count begun on writes charged race =>
    exact .writing count begun on writes charged race
  | spared spared => exact .spared spared
  | lost on charged => exact .lost on charged

theorem Racing.announce {event : AlarmEvent} {rest : Script (Except LifecycleFault call.Answer)}
    (racing : Racing session i retries call (.announce event rest)) :
    Racing session i retries call rest := by
  generalize announces : Script.announce event rest = whole at racing
  cases racing with
  | reading => cases call <;> cases announces
  | writing => cases announces
  | spared spared =>
    subst announces
    exact .spared spared
  | lost => cases announces

theorem Racing.of_lost {source key : String}
    (racing : Racing session i retries call (.done (.error (.store (.conflict source key))))) :
    call.IsOn session.store source key ∧ retries < session.rivals i source key := by
  generalize ends : Script.done _ = whole at racing
  cases racing with
  | reading => cases call <;> cases ends
  | writing => cases ends
  | spared spared =>
    subst ends
    exact absurd rfl (spared source key)
  | lost on charged =>
    cases ends
    exact ⟨on, charged⟩

section Answered
variable (h : session.store.Indexed) {request : StoreRequest}
include h

/-- A read leaves a write to be made that only a rival can keep from being accepted. -/
theorem Racing.answered_reading (answered : session.Answered i call request next) {n left : Nat}
    (count : n + left = retries)
    (charged : n = 0 ∨ ∃ source key, call.IsOn session.store source key ∧
      n ≤ session.met i source key)
    {rest : Except StoreFault request.Answer → Script (Except StoreFault call.Answer)}
    (reads : Call.Reads session.store call n (.ask request rest)) :
    Racing next i retries call
      (resume call n left (rest (session.store.respond request).1)) := by
  obtain ⟨store, journal⟩ := answered
  cases reads with
  | @found _ _ answer read answers ready fresh =>
    rw [answers] at store ⊢
    have opens := ready.opens h fresh
    dsimp only at store opens ⊢
    generalize rest (.ok answer) = script at opens ⊢
    cases opens with
    | @intro source key _ _ on writes =>
      have met : n ≤ next.met i source key := by
        refine Nat.le_trans ?_ (met_le_concat journal)
        obtain rfl | ⟨source', key', on', met⟩ := charged
        · exact Nat.zero_le _
        · obtain ⟨rfl, rfl⟩ := on.unique on'
          exact met
      rw [← store] at on writes
      exact .writing count ⟨_, journal ▸ List.mem_append_right _ (List.mem_singleton_self _), rfl⟩
        on writes met (.inl rfl)
  | ended read answers ends idle wrote won =>
    rw [answers]
    dsimp only
    rw [ends, resume_won won]
    exact .spared (call.spared_finish won)

/-- A write that is refused comes after one more rival. -/
theorem Racing.answered_writing (answered : session.Answered i call request next) {n left : Nat}
    {source key : String} {seen : Option Occurrence}
    {rest : Except StoreFault request.Answer → Script (Except StoreFault call.Answer)}
    (count : n + left = retries) (on : call.IsOn session.store source key)
    (writes : call.Writes source key seen request rest)
    (race : session.store.find? source key = seen ∨ n < session.met i source key) :
    Racing next i retries call
      (resume call n left (rest (session.store.respond request).1)) := by
  obtain ⟨store, journal⟩ := answered
  obtain ⟨row, written, rfl, rfl⟩ := writes.named
  rcases respond_of_write session.store written with ⟨answer, accepted⟩ | refused | missing
  · obtain ⟨result, ends⟩ := writes.succeeds answer
    rw [accepted, ends, resume_won rfl]
    exact .spared (call.spared_finish rfl)
  · -- the row is not as it was seen: there is one more rival than attempts that failed
    have overtaken := race.resolve_left fun current => by
      obtain ⟨answer, accepted⟩ := writes.accepted h current
      rw [refused] at accepted
      cases accepted
    rw [refused] at store ⊢
    dsimp only at store ⊢
    rw [← store] at on
    rw [writes.fails]
    cases left with
    | zero =>
      rw [resume_last, call.finish_conflict]
      refine .lost on ?_
      rw [rivals_concat_self (i := i) journal rfl]
      omega
    | succ left =>
      rw [resume_lost]
      exact .reading (by omega) (.inr ⟨_, _, on, overtaken.trans_le (met_le_concat journal)⟩)
  · rw [missing]
    dsimp only
    rw [writes.fails, resume_won rfl]
    exact .spared (call.spared_finish rfl)

theorem Racing.answered (answered : session.Answered i call request next)
    {rest : Except StoreFault request.Answer → Script (Except LifecycleFault call.Answer)}
    (racing : Racing session i retries call (.ask request rest)) :
    Racing next i retries call (rest (session.store.respond request).1) := by
  generalize asks : Script.ask request rest = whole at racing
  cases racing with
  | @reading n left count charged =>
    have reads := call.attempt_reads h n
    generalize call.attempt n = attempt at reads asks
    cases id reads <;> cases asks <;> exact .answered_reading h answered count charged reads
  | writing count begun on writes charged race =>
    cases asks
    exact .answered_writing h answered count on writes race
  | spared spared =>
    subst asks
    exact spared.elim
  | lost => cases asks

/-- A store call of another thread changes the row only if it is a rival. -/
theorem Racing.overtaken {j : Nat} {other : Call} (elsewhere : j ≠ i)
    (answered : session.Answered j other request next) (keeps : ¬request.Renames session.store)
    (racing : Racing session i retries call script) : Racing next i retries call script := by
  obtain ⟨store, journal⟩ := answered
  have responded : Responded session.store request next.store := store ▸ responded keeps
  cases racing with
  | reading count charged =>
    refine .reading count (charged.imp_right fun ⟨source, key, on, met⟩ => ?_)
    exact ⟨source, key, on.responded h responded, met.trans (met_le_concat journal)⟩
  | @writing n left source key seen _ _ count begun on writes charged race =>
    have later : n ≤ next.met i source key := charged.trans (met_le_concat journal)
    refine .writing count ?_ (on.responded h responded) writes later ?_
    · obtain ⟨old, hold, own⟩ := begun
      exact ⟨old, journal ▸ List.mem_append_left _ hold, own⟩
    · cases rival : isRival i source key ⟨j, other, request, (session.store.respond request).1⟩ with
      | true =>
        right
        rw [met_concat_rival journal begun rival]
        omega
      | false =>
        -- the row stays as it is, and so does the race
        refine race.imp (fun current => ?_) fun behind => behind.trans_le (met_le_concat journal)
        rw [store, find?_of_not_rival h elsewhere keeps rival]
        exact current
  | spared spared => exact .spared spared
  | lost on charged =>
    refine .lost (on.responded h responded) ?_
    rwa [rivals_concat_of_ne journal elsewhere]

end Answered

end Step

end Session

def Move.started? : Move → Option (Nat × Call)
  | .start retries call => some (retries, call)
  | .advance _ => none

namespace Session

def starts (moves : List Move) : List (Nat × Call) := moves.filterMap Move.started?

/-- Each thread runs the call that was begun for it, and its failures are charged to rivals. -/
structure Raced (session : Session) (starts : List (Nat × Call)) : Prop where
  length : starts.length = session.threads.length
  each : ∀ {i thread}, session.threads[i]? = some thread →
    ∃ retries, starts[i]? = some (retries, thread.call) ∧
      Racing session i retries thread.call thread.script

section Run
variable {session : Session} {starts : List (Nat × Call)} (raced : session.Raced starts)
include raced

theorem Raced.start (retries : Nat) (call : Call) :
    (session.start retries call).Raced (starts ++ [(retries, call)]) where
  length := by simp [Session.start, raced.length]
  each {i thread} hi := by
    rw [Session.start, List.getElem?_append] at hi
    rw [List.getElem?_append, raced.length]
    split at hi
    · obtain ⟨retries, started, racing⟩ := raced.each hi
      exact ⟨retries, by rwa [if_pos ‹_›], racing.congr rfl rfl⟩
    · rw [List.getElem?_singleton] at hi
      obtain ⟨first, hi⟩ := Option.ite_none_right_eq_some.mp hi
      cases hi
      exact ⟨retries, by rw [if_neg ‹_›, first]; rfl, .start _ i retries call⟩

theorem Raced.set {next : Session} {i : Nat} {call : Call}
    {before after : Script (Except LifecycleFault call.Answer)}
    (at_i : session.threads[i]? = some ⟨call, before⟩)
    (threads : next.threads = session.threads.set i ⟨call, after⟩)
    (own : ∀ {retries}, Racing session i retries call before → Racing next i retries call after)
    (others : ∀ {j retries call script}, i ≠ j → Racing session j retries call script →
      Racing next j retries call script) : next.Raced starts where
  length := by rw [threads, List.length_set, raced.length]
  each {j thread} hj := by
    rw [threads, List.getElem?_set] at hj
    split at hj
    · rename_i same
      subst same
      obtain ⟨-, hj⟩ := Option.ite_none_right_eq_some.mp hj
      cases hj
      obtain ⟨retries, started, racing⟩ := raced.each at_i
      exact ⟨retries, started, own racing⟩
    · rename_i other
      obtain ⟨retries, started, racing⟩ := raced.each hj
      exact ⟨retries, started, others other racing⟩

theorem Raced.announce {i : Nat} {call : Call} {event : AlarmEvent}
    {rest : Script (Except LifecycleFault call.Answer)}
    (at_i : session.threads[i]? = some ⟨call, .announce event rest⟩) :
    (session.announce i call event rest).Raced starts :=
  raced.set at_i rfl (fun racing => racing.announce.congr rfl rfl)
    fun _ racing => racing.congr rfl rfl

theorem Raced.ask (h : session.Simulated) {i : Nat} {call : Call} {request : StoreRequest}
    {next : Except StoreFault request.Answer → Script (Except LifecycleFault call.Answer)}
    (at_i : session.threads[i]? = some ⟨call, .ask request next⟩) :
    (session.ask i call request next).Raced starts := by
  have answered := session.answered_ask i call request next
  have keeps := (h.staged at_i).not_renames h.indexed
  exact raced.set at_i rfl (fun racing => racing.answered h.indexed answered)
    fun other racing => racing.overtaken h.indexed other answered keeps

end Run

theorem raced_run (moves : List Move) : (run moves).Raced (starts moves) := by
  induction moves using List.reverseRecOn with
  | nil => exact ⟨rfl, fun hi => by simp [run] at hi⟩
  | append_singleton moves move raced =>
    rw [run_concat, starts, List.filterMap_append]
    cases move with
    | start retries call => exact raced.start retries call
    | advance i =>
      change ((run moves).step (.advance i)).Raced (starts moves ++ [])
      rw [List.append_nil, step]
      split <;> rename_i at_i
      · exact raced.ask (simulated_run moves) at_i
      · exact raced.announce at_i
      · exact raced
      · exact raced

/-- However the steps of any number of calls alternate, a call ends with a conflict only if other
calls have written its row more often than it may try again, all between its first and its last
store call. One that meets at most as many such writes as it may try again never ends so. -/
theorem conflict_of_rivals (moves : List Move) {i retries : Nat} {call : Call}
    {script : Script (Except LifecycleFault call.Answer)}
    (started : (starts moves)[i]? = some (retries, call))
    (at_i : (run moves).threads[i]? = some ⟨call, script⟩) :
    (∀ source key, script = .done (.error (.store (.conflict source key))) →
      call.IsOn (run moves).store source key ∧ retries + 1 ≤ (run moves).rivals i source key) ∧
    ((∀ source key, call.IsOn (run moves).store source key →
        (run moves).rivals i source key ≤ retries) →
      ∀ source key, script ≠ .done (.error (.store (.conflict source key)))) := by
  have lost : ∀ source key, script = .done (.error (.store (.conflict source key))) →
      call.IsOn (run moves).store source key ∧
        retries + 1 ≤ (run moves).rivals i source key := by
    rintro source key rfl
    obtain ⟨retries', started', racing⟩ := (raced_run moves).each at_i
    cases started.symm.trans started'
    exact racing.of_lost
  refine ⟨lost, fun spared source key conflict => ?_⟩
  obtain ⟨on, rivals⟩ := lost source key conflict
  have := spared source key on
  omega

def pumpIs (state : AlarmState) : Call :=
  .observe { source := "engine", key := "P1", state, timestamp := ⟨0, 0⟩ }

/-- A call that may try twice. Its row is inserted before it can insert it, and is updated before it
can update it. -/
def beatenPump : List Move :=
  [.start 1 (pumpIs .alarm), .advance 0,
    .start 5 (pumpIs .alarm), .advance 1, .advance 1, .advance 0, .advance 0,
    .start 5 (pumpIs .ok), .advance 2, .advance 2, .advance 0]

theorem beatenPump_conflict :
    (run beatenPump).threads[0]? =
      some ⟨pumpIs .alarm, .done (.error (.store (.conflict "engine" "P1")))⟩ ∧
    1 + 1 ≤ (run beatenPump).rivals 0 "engine" "P1" :=
  have at_0 : (run beatenPump).threads[0]? =
      some ⟨pumpIs .alarm, .done (.error (.store (.conflict "engine" "P1")))⟩ := rfl
  ⟨at_0, ((@conflict_of_rivals beatenPump 0 1 _ _ rfl at_0).1 _ _ rfl).2⟩

end Session
end PlcMonitor
